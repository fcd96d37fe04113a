import RestBindings.Proofs.Annotations
import RestBindings.Proofs.Units

/-!
# Units as filled templates

Units are written declaration by declaration, by a writer that keeps the package and the types
that are open. What comes out can be said without a writer: a class and an interface are texts of
fixed lines with places for names, types and parameters (`Template.classLines`,
`Template.interfaceLines`), and what is put there follows from the schema or the resource alone.

* `Model.source_eq_ok_iff`: the source of a schema is the class with one field per property, in
  document order (`IsField`).
* `Interface.source_eq_ok_iff`: the source of a resource is the interface with the calls of its
  methods, in document order, the call that returns its result first. All calls of a method have
  the same parameters up to the callback (`SharedParameters`).

Both are exact: the source exists exactly when the template can be filled. For names without
dots, `sources_eq_ok_iff` has both in their plain form.
-/

namespace RestBindings.Binding

open Discovery Source

/-! ## Templates -/

namespace Template

/-- The text of lines, each of them ended by a line feed. -/
def ended : List String → String
  | [] => ""
  | line :: rest => line ++ "\n" ++ ended rest

/-- A field of a class. -/
structure Field where
  name : String
  type : String
  deriving DecidableEq, Repr

/-- The line of a field. -/
def Field.line (field : Field) : String :=
  "  public " ++ field.type ++ " " ++ field.name ++ ";"

/-- The lines of a class with the given fields. -/
def classLines (package name : String) (fields : List Field) : List String :=
  ["package " ++ package ++ ";", "", "import java.util.List;", "",
    "public class " ++ name ++ " \x7b"] ++ fields.map Field.line ++ ["\x7d"]

/-- A call that an interface declares, its parameters as texts. -/
structure Call where
  verb : String
  path : String
  result : String
  name : String
  parameters : List String
  deriving DecidableEq, Repr

/-- The two lines of a call: its annotation and its declaration. -/
def Call.lines (call : Call) : List String := [
  "  @" ++ call.verb ++ "(" ++ Literal.quote ("/" ++ call.path) ++ ")",
  "  " ++ call.result ++ " " ++ call.name ++ "(" ++ Text.join ", " call.parameters ++ ");"]

/-- The lines of an interface with the given calls. -/
def interfaceLines (package name : String) (calls : List Call) : List String :=
  ["package " ++ package ++ ";", "", "import " ++ package ++ ".model.*;", "",
    "import java.util.List;", "", "import retrofit.Callback;", "import retrofit.http.Body;",
    "import retrofit.http.DELETE;", "import retrofit.http.GET;", "import retrofit.http.PATCH;",
    "import retrofit.http.POST;", "import retrofit.http.PUT;", "import retrofit.http.Path;",
    "import retrofit.http.Query;", "", "public interface " ++ name ++ " \x7b"] ++
    calls.flatMap Call.lines ++ ["\x7d"]

/-- A parameter with its annotation, if its location has one. -/
def parameterText (location : Option String) (name declaration : String) : String :=
  match annotationFor location with
  | some label => annotatedText label name declaration
  | none => declaration

/-- The type of a response, or the one given for no response. -/
def responseOr (absent : String) : Option ResponseBody → String
  | some body => body.ref
  | none => absent

/-- The calls of a method in the wanted shapes, for the parameters that they share. -/
def callsFor (shapes : Shapes) (m : Method) (parameters : List String) : List Call :=
  (if shapes.sync then
    [⟨m.httpMethod, m.path, responseOr "void" m.response, m.name, parameters⟩] else []) ++
  (if shapes.async then
    [⟨m.httpMethod, m.path, "void", m.name,
      parameters ++ ["Callback<" ++ responseOr "Void" m.response ++ "> cb"]⟩] else [])

end Template

open Template

/-! ## What is put into them -/

section

variable (table : TypeTable) (classes : ClassMap) (shapes : Shapes)

/-- The field of a property: named like it, of the type that the class map has for it or else of
the one that the table gives to its descriptor. -/
structure IsField (property : String × Descriptor) (field : Field) : Prop where
  name : field.name = property.1
  type : classes.typeOf? property.1 = some field.type ∨
    classes.typeOf? property.1 = none ∧ table.Gives property.2 field.type

/-- The parameter for a request body. -/
def IsBody (body : RequestBody) (text : String) : Prop :=
  ∃ identifier, Identifier.ofName body.parameterName = .ok identifier ∧
    text = "@Body " ++ body.ref ++ " " ++ identifier

/-- The parameter of a call for a declared parameter. -/
def IsParameter (named : Named) (text : String) : Prop :=
  ∃ type identifier, table.GivesParameter named.2 type ∧
    Identifier.ofName named.1 = .ok identifier ∧
    text = parameterText named.2.location named.1 (type ++ " " ++ identifier)

/-- The parameters that all calls of a method share: the request body, if there is one, and
then every declared parameter, in the order of the call. -/
def SharedParameters (m : Method) (parameters : List String) : Prop :=
  ∃ bodies ordered declared, List.Forall₂ IsBody m.request.toList bodies ∧
    arrange m = .ok ordered ∧ List.Forall₂ (IsParameter table) ordered declared ∧
    parameters = bodies ++ declared

/-- The class of a schema in a package, declared by the given name. -/
def IsClassOf (package name : String) (s : Schema) (text : String) : Prop :=
  ∃ fields, List.Forall₂ (IsField table classes) s.properties fields ∧
    text = ended (classLines package name fields)

/-- The interface of a resource in a package, declared by the given name. -/
def IsInterfaceOf (package name : String) (r : Resource) (text : String) : Prop :=
  ∃ groups, List.Forall₂ (fun entry calls => ∃ parameters,
      SharedParameters table entry.2 parameters ∧
      calls = callsFor shapes entry.2 parameters) r.methods groups ∧
    text = ended (interfaceLines package name groups.flatten)

end

/-- The name by which the type of a unit is declared: its own, or the qualified one when it
holds a dot. -/
def declaredName (package name : String) : String :=
  if '.' ∈ name.toList then package ++ "." ++ name else name

/-! ## Writing fills a template -/

/-- Lines joined by line feeds, with one behind them, are lines that are each ended by one. -/
theorem textOf_eq_ended {lines : List String} (h : lines ≠ []) :
    Writer.textOf lines = ended lines := by
  induction lines with
  | nil => exact absurd rfl h
  | cons line rest ih =>
      rw [ended]
      cases rest with
      | nil =>
          rw [← String.toList_inj]
          simp [Writer.textOf, ended, Text.joinWith]
      | cons next others =>
          rw [← ih (List.cons_ne_nil next others), ← String.toList_inj]
          simp [Writer.textOf, Text.joinWith]

/-- A line of a member is indented by two blanks. -/
theorem indented_one {line : String} (h : line ≠ "") : Writer.indented 1 line = "  " ++ line := by
  have hempty : ¬ line.isEmpty = true := fun he => h (String.isEmpty_iff.mp he)
  rw [Writer.indented, if_neg hempty]
  rfl

/-- **The text of a public unit** of a named package: the clause of the package, the header, the
line that opens the type, the lines of its members, two blanks in front of each, and the end. -/
theorem textOfDeclarations_public {package : String} (hp : package ≠ "") (name kind : String)
    {header members : List Declaration} {lines : List String}
    (hh : ∀ d ∈ header, Declaration.isHeader d = true)
    (hm : members.map Declaration.memberLine? = lines.map some) (hl : ∀ line ∈ lines, line ≠ "") :
    textOfDeclarations ((.package package :: header ++
      [.beginType (package ++ "." ++ name) kind ["public"]]) ++ members ++ [.endType]) =
      .ok (ended (["package " ++ package ++ ";", ""] ++ header.flatMap Declaration.headerLines ++
        ["public " ++ kind ++ " " ++ declaredName package name ++ " \x7b"] ++
        lines.map ("  " ++ ·) ++ ["\x7d"])) := by
  have hindent : lines.map (Writer.indented 1) = lines.map ("  " ++ ·) :=
    List.map_congr_left fun line hline => indented_one (hl line hline)
  have hunit : unitLines package (package ++ "." ++ name) kind ["public"] header lines =
      ["package " ++ package ++ ";", ""] ++ header.flatMap Declaration.headerLines ++
        ["public " ++ kind ++ " " ++ declaredName package name ++ " \x7b"] ++
        lines.map ("  " ++ ·) ++ ["\x7d"] := by
    rw [unitLines, clauseLines_of_ne_empty hp, hindent, typeLine_public hp]
    simp [declaredName]
  rw [textOfDeclarations_unit package _ kind ["public"] hh hm, hunit, textOf_eq_ended (by simp)]

/-! ## Classes -/

/-- The declaration of a field. -/
def Template.Field.declaration (field : Field) : Declaration :=
  .field field.type field.name ["public"]

namespace Model

variable {table : TypeTable} {classes : ClassMap} {package : String} {s : Schema}

/-- The field for a property is declared exactly when the property has one. -/
theorem fieldOf_eq_ok_iff {property : String × Descriptor} {d : Declaration} :
    fieldOf table classes s property = .ok d ↔
      ∃ field, IsField table classes property field ∧ d = field.declaration := by
  have htype (type : String) : fieldType table classes s property = .ok type ↔
      IsField table classes property ⟨property.1, type⟩ := by
    unfold fieldType
    constructor
    · intro h
      cases hc : classes.typeOf? property.1 with
      | some found =>
          simp only [hc, Except.ok.injEq] at h
          exact ⟨rfl, .inl (h ▸ hc)⟩
      | none =>
          simp only [hc] at h
          exact ⟨rfl, .inr ⟨hc, (TypeTable.typeOf_eq_ok_iff _).mp h⟩⟩
    · rintro ⟨-, hc | ⟨hc, hg⟩⟩
      · simp [hc]
      · simp only [hc]
        exact (TypeTable.typeOf_eq_ok_iff _).mpr hg
  unfold fieldOf
  constructor
  · intro h
    cases hf : fieldType table classes s property with
    | error e => simp [hf] at h
    | ok type =>
        simp only [hf, Except.ok.injEq] at h
        exact ⟨⟨property.1, type⟩, (htype type).mp hf, h.symm⟩
  · rintro ⟨⟨name, type⟩, hfield, rfl⟩
    obtain rfl : name = property.1 := hfield.name
    simp only [(htype type).mpr hfield]
    rfl

/-- Writing a class fills its template. -/
theorem textOfDeclarations_fields (hp : package ≠ "") (fields : List Field) :
    textOfDeclarations (opening package s ++ fields.map Field.declaration ++ [.endType]) =
      .ok (ended (classLines package (declaredName package s.id) fields)) := by
  have hh : ∀ d ∈ Model.header, Declaration.isHeader d = true := by decide
  have hm : (fields.map Field.declaration).map Declaration.memberLine? =
      (fields.map fun field => "public " ++ field.type ++ " " ++ field.name ++ ";").map some := by
    rw [List.map_map, List.map_map]
    apply List.map_congr_left
    intro field _
    rw [Function.comp_apply, Function.comp_apply, Field.declaration, Declaration.memberLine?,
      Option.some.injEq, ← String.toList_inj]
    simp [Writer.words, Text.joinWith]
  have hl : ∀ line ∈ fields.map (fun field => "public " ++ field.type ++ " " ++ field.name ++ ";"),
      line ≠ "" := by
    intro line hline
    obtain ⟨field, -, rfl⟩ := List.mem_map.mp hline
    intro hempty
    have hlength := congrArg (fun s => s.toList.length) hempty
    simp at hlength
  have hlines : (fields.map fun field => "public " ++ field.type ++ " " ++ field.name ++ ";").map
      ("  " ++ ·) = fields.map Field.line := by
    rw [List.map_map]
    apply List.map_congr_left
    intro field _
    rw [Function.comp_apply, Field.line, ← String.toList_inj]
    simp
  have htext := textOfDeclarations_public hp s.id "class" hh hm hl
  rw [hlines] at htext
  exact htext

/-- **The source of a schema** in a named package is its class, declared by the id, or by the
qualified id when the id holds a dot. -/
theorem source_eq_ok_iff (hp : package ≠ "") {text : String} :
    source package table classes s = .ok text ↔
      IsClassOf table classes package (declaredName package s.id) s text := by
  have hall (ds : List Declaration) :
      Traversal.all (fieldOf table classes s) s.properties = .ok ds ↔
        ∃ fields, List.Forall₂ (IsField table classes) s.properties fields ∧
          ds = fields.map Field.declaration := by
    simp only [Traversal.all_eq_ok_iff, fieldOf_eq_ok_iff, exists_map_iff_forall₂]
  unfold source declarations
  constructor
  · intro h
    cases hd : Traversal.all (fieldOf table classes s) s.properties with
    | error e => simp [hd] at h
    | ok ds =>
        obtain ⟨fields, hfields, rfl⟩ := (hall ds).mp hd
        simp only [hd, textOfDeclarations_fields hp, Except.ok.injEq] at h
        exact ⟨fields, hfields, h.symm⟩
  · rintro ⟨fields, hfields, rfl⟩
    have hd := (hall _).mpr ⟨fields, hfields, rfl⟩
    simp only [hd, textOfDeclarations_fields hp]

example : ended (classLines "api.model" "Disk" [⟨"id", "Long"⟩]) =
    "package api.model;\n\nimport java.util.List;\n\n" ++
      "public class Disk \x7b\n  public Long id;\n\x7d\n" := by decide

end Model

/-! ## Interfaces -/

/-- The declarations of a call. -/
def Template.Call.declarations (call : Call) : List Declaration := [
  .annotate call.verb (some (Literal.quote ("/" ++ call.path))),
  .method call.result call.name call.parameters []]

/-- The lines of a call without their indentation. -/
def Template.Call.bareLines (call : Call) : List String := [
  "@" ++ call.verb ++ "(" ++ Literal.quote ("/" ++ call.path) ++ ")",
  call.result ++ " " ++ call.name ++ "(" ++ Text.join ", " call.parameters ++ ");"]

/-- What calls declare is written in their lines. -/
theorem memberLine_calls (calls : List Call) :
    (calls.flatMap Call.declarations).map Declaration.memberLine? =
      (calls.flatMap Call.bareLines).map some := by
  rw [List.map_flatMap, List.map_flatMap]
  apply List.flatMap_congr
  intro call _
  simp [Call.bareLines, Call.declarations, Declaration.memberLine?, Writer.annotationText,
    Writer.memberText, Writer.words, ← String.toList_inj, Text.joinWith]

/-- Inside a type the lines of calls are indented by two blanks. -/
theorem indented_calls (calls : List Call) :
    (calls.flatMap Call.bareLines).map (Writer.indented 1) = calls.flatMap Call.lines := by
  have hne : ∀ line ∈ calls.flatMap Call.bareLines, line ≠ "" := by
    intro line hline hempty
    obtain ⟨call, -, hmem⟩ := List.mem_flatMap.mp hline
    have hlength := congrArg (fun s => s.toList.length) hempty
    simp only [Call.bareLines, List.mem_cons, List.not_mem_nil, or_false] at hmem
    rcases hmem with rfl | rfl <;> simp at hlength
  have hindent : (calls.flatMap Call.bareLines).map (Writer.indented 1) =
      (calls.flatMap Call.bareLines).map ("  " ++ ·) :=
    List.map_congr_left fun line hline => indented_one (hne line hline)
  rw [hindent, List.map_flatMap]
  apply List.flatMap_congr
  intro call _
  simp [Call.bareLines, Call.lines, ← String.toList_inj]

/-- The wanted shapes, one after the other. -/
theorem Shapes.toList_eq (shapes : Shapes) :
    shapes.toList =
      (if shapes.sync then [Shape.sync] else []) ++ if shapes.async then [Shape.async] else [] := by
  rcases shapes with ⟨_ | _, _ | _⟩ <;> rfl

section

variable {table : TypeTable} {shapes : Shapes} {m : Method}

/-- The parameter for a request body is the text of its argument. -/
theorem isBody_iff {body : RequestBody} {text : String} :
    IsBody body text ↔ ∃ a, Signature.bodyArgument body = .ok a ∧ text = a.text := by
  constructor
  · rintro ⟨identifier, hi, rfl⟩
    exact ⟨⟨.body, body.ref, identifier⟩,
      Signature.bodyArgument_eq_ok_iff.mpr ⟨rfl, rfl, hi⟩, rfl⟩
  · rintro ⟨⟨mark, type, identifier⟩, ha, rfl⟩
    obtain ⟨hmark, htype, hi⟩ := Signature.bodyArgument_eq_ok_iff.mp ha
    simp only at hmark htype
    subst hmark htype
    exact ⟨identifier, hi, rfl⟩

/-- The text of an argument that is marked by a location. -/
theorem text_parameter (name : String) (location : Option String) (type identifier : String) :
    (⟨Signature.markFor name location, type, identifier⟩ : Argument).text =
      parameterText location name (type ++ " " ++ identifier) := by
  unfold parameterText
  cases hl : annotationFor location with
  | some label => exact text_markFor hl type identifier
  | none =>
      have hmark : Signature.markFor name location = .none := by
        unfold annotationFor at hl
        unfold Signature.markFor
        split_ifs at hl ⊢
        rfl
      rw [hmark, Argument.text, Mark.text, String.empty_append]

/-- The parameter of a call for a declared one is the text of its argument. -/
theorem isParameter_iff (call : String) {named : Named} {text : String} :
    IsParameter table named text ↔
      ∃ a, Signature.parameterArgument table call named = .ok a ∧ text = a.text := by
  constructor
  · rintro ⟨type, identifier, hg, hi, rfl⟩
    exact ⟨⟨Signature.markFor named.1 named.2.location, type, identifier⟩,
      Signature.parameterArgument_eq_ok_iff.mpr ⟨rfl, hg, hi⟩,
      (text_parameter _ _ _ _).symm⟩
  · rintro ⟨⟨mark, type, identifier⟩, ha, rfl⟩
    obtain ⟨hmark, hg, hi⟩ := Signature.parameterArgument_eq_ok_iff.mp ha
    simp only at hmark
    subst hmark
    exact ⟨type, identifier, hg, hi, text_parameter _ _ _ _⟩

/-- The shared parameters are the texts of the arguments that all calls take. -/
theorem sharedParameters_iff {parameters : List String} :
    SharedParameters table m parameters ↔
      ∃ ordered bodies arguments, arrange m = .ok ordered ∧
        List.Forall₂ (fun body a => Signature.bodyArgument body = .ok a) m.request.toList bodies ∧
        List.Forall₂ (fun named a => Signature.parameterArgument table m.name named = .ok a)
          ordered arguments ∧
        parameters = (bodies ++ arguments).map Argument.text := by
  have hbody : IsBody = fun body text =>
      ∃ a, Signature.bodyArgument body = .ok a ∧ text = a.text :=
    funext₂ fun _ _ => propext isBody_iff
  have hparameter : IsParameter table = fun named text =>
      ∃ a, Signature.parameterArgument table m.name named = .ok a ∧ text = a.text :=
    funext₂ fun _ _ => propext (isParameter_iff m.name)
  unfold SharedParameters
  simp only [hbody, hparameter, ← exists_map_iff_forall₂]
  constructor
  · rintro ⟨_, ordered, _, ⟨bodies, hb, rfl⟩, ha, ⟨arguments, hp, rfl⟩, rfl⟩
    exact ⟨ordered, bodies, arguments, ha, hb, hp, List.map_append.symm⟩
  · rintro ⟨ordered, bodies, arguments, ha, hb, hp, rfl⟩
    exact ⟨_, ordered, _, ⟨bodies, hb, rfl⟩, ha, ⟨arguments, hp, rfl⟩, List.map_append⟩

/-- The text of the callback. -/
theorem text_callbackArgument (response : Option ResponseBody) :
    (Signature.callbackArgument response).text =
      "Callback<" ++ responseOr "Void" response ++ "> cb" := by
  rw [← String.toList_inj]
  cases response <;>
    simp [Signature.callbackArgument, Argument.text, Mark.text, responseOr,
      Signature.noResultObject, Signature.callbackIdentifier]

/-- The signatures of a method declare its calls. -/
theorem flatMap_memberOf (arguments : List Argument) :
    (shapes.toList.map fun shape => (⟨m.name, Signature.resultOf m.response shape,
        arguments ++ Signature.callbackOf m.response shape⟩ : Signature)).flatMap
        (Interface.memberOf m) =
      (callsFor shapes m (arguments.map Argument.text)).flatMap Call.declarations := by
  have hsync : Signature.resultOf m.response .sync = responseOr "void" m.response := by
    unfold Signature.resultOf responseOr
    cases m.response <;> rfl
  have hasync : Signature.resultOf m.response .async = "void" := rfl
  have hcallback := text_callbackArgument m.response
  rw [Shapes.toList_eq, callsFor, List.map_append, List.flatMap_append, List.flatMap_append]
  congr 1
  · by_cases hs : shapes.sync = true
    · simp [hs, Interface.memberOf, Interface.pathLiteral, Call.declarations,
        Signature.argumentTexts, Signature.callbackOf, hsync]
    · simp [hs]
  · by_cases hs : shapes.async = true
    · simp [hs, Interface.memberOf, Interface.pathLiteral, Call.declarations,
        Signature.argumentTexts, Signature.callbackOf, hasync, hcallback]
    · simp [hs]

namespace Interface

variable {package : String} {r : Resource}

/-- The members of a method are declared exactly when its calls have parameters to share. -/
theorem membersOf_eq_ok_iff (hs : shapes ≠ .neither) {ds : List Declaration} :
    membersOf table shapes m = .ok ds ↔
      ∃ calls, (∃ parameters, SharedParameters table m parameters ∧
        calls = callsFor shapes m parameters) ∧ ds = calls.flatMap Call.declarations := by
  have hmembers : membersOf table shapes m = .ok ds ↔
      ∃ signatures, signaturesOf table shapes m = .ok signatures ∧
        ds = signatures.flatMap (memberOf m) := by
    unfold membersOf
    cases signaturesOf table shapes m with
    | error e => simp
    | ok signatures => simp [eq_comm]
  rw [hmembers]
  simp only [signaturesOf_eq_ok_iff hs, sharedParameters_iff]
  constructor
  · rintro ⟨_, ⟨ordered, bodies, arguments, ha, hb, hp, rfl⟩, rfl⟩
    exact ⟨_, ⟨_, ⟨ordered, bodies, arguments, ha, hb, hp, rfl⟩, rfl⟩, flatMap_memberOf _⟩
  · rintro ⟨_, ⟨_, ⟨ordered, bodies, arguments, ha, hb, hp, rfl⟩, rfl⟩, rfl⟩
    exact ⟨_, ⟨ordered, bodies, arguments, ha, hb, hp, rfl⟩, (flatMap_memberOf _).symm⟩

/-- The header of an interface. -/
theorem headerLines_header (package : String) :
    (Interface.header package).flatMap Declaration.headerLines =
      ["import " ++ package ++ ".model.*;", "", "import java.util.List;", "",
        "import retrofit.Callback;", "import retrofit.http.Body;", "import retrofit.http.DELETE;",
        "import retrofit.http.GET;", "import retrofit.http.PATCH;", "import retrofit.http.POST;",
        "import retrofit.http.PUT;", "import retrofit.http.Path;", "import retrofit.http.Query;",
        ""] := by
  have hmodel : (Declaration.imports [package ++ ".model.*"]).headerLines =
      ["import " ++ package ++ ".model.*;"] := by
    simp [Declaration.headerLines, ← String.toList_inj]
  have hlist : (Declaration.imports ["java.util.List"]).headerLines =
      ["import java.util.List;"] := by decide
  have hclient : (Declaration.imports clientImports).headerLines =
      ["import retrofit.Callback;", "import retrofit.http.Body;", "import retrofit.http.DELETE;",
        "import retrofit.http.GET;", "import retrofit.http.PATCH;", "import retrofit.http.POST;",
        "import retrofit.http.PUT;", "import retrofit.http.Path;",
        "import retrofit.http.Query;"] := by decide
  simp only [Interface.header, List.flatMap_cons, List.flatMap_nil, hmodel, hlist, hclient]
  rfl

/-- The lines of an interface up to the one that opens it. -/
def openingLines (package : String) (r : Resource) : List String :=
  clauseLines package ++ (Interface.header package).flatMap Declaration.headerLines ++
    [typeLine package (package ++ "." ++ typeName r) "interface" ["public"]]

/-- Writing an interface, in a named package or in none: the lines that open it, the lines of its
calls and the end. -/
theorem textOfDeclarations_opening (package : String) (r : Resource) (calls : List Call) :
    textOfDeclarations (opening package r ++ calls.flatMap Call.declarations ++ [.endType]) =
      .ok (ended (openingLines package r ++ calls.flatMap Call.lines ++ ["\x7d"])) := by
  have hh : ∀ d ∈ Interface.header package, Declaration.isHeader d = true := by
    simp [Interface.header, Declaration.isHeader]
  have hopening : opening package r = .package package :: Interface.header package ++
      [.beginType (package ++ "." ++ typeName r) "interface" ["public"]] := rfl
  have hlines : unitLines package (package ++ "." ++ typeName r) "interface" ["public"]
      (Interface.header package) (calls.flatMap Call.bareLines) =
        openingLines package r ++ calls.flatMap Call.lines ++ ["\x7d"] := by
    rw [unitLines, indented_calls, openingLines]
    simp
  rw [hopening, textOfDeclarations_unit package _ _ _ hh (memberLine_calls calls), hlines,
    textOf_eq_ended (by simp)]

/-- In a named package these lines are those of the template. -/
theorem openingLines_append (hp : package ≠ "") (calls : List Call) :
    openingLines package r ++ calls.flatMap Call.lines ++ ["\x7d"] =
      interfaceLines package (declaredName package (typeName r)) calls := by
  have htype : "public " ++ "interface" ++ " " ++ declaredName package (typeName r) ++ " \x7b" =
      "public interface " ++ declaredName package (typeName r) ++ " \x7b" := by
    simp
  rw [openingLines, clauseLines_of_ne_empty hp, typeLine_public hp, headerLines_header,
    interfaceLines, ← htype]
  rfl

/-- **The source of a resource** in a named package is its interface, declared by its name, or by
the qualified name when the name holds a dot. -/
theorem source_eq_ok_iff (hp : package ≠ "") (hs : shapes ≠ .neither) {text : String} :
    source package table shapes r = .ok text ↔
      IsInterfaceOf table shapes package (declaredName package (typeName r)) r text := by
  have horBoth : shapes.orBoth = shapes := if_neg hs
  have hall (members : List (List Declaration)) :
      Traversal.all (membersOf table shapes) (r.methods.map Prod.snd) = .ok members ↔
        ∃ groups, List.Forall₂ (fun entry calls => ∃ parameters,
            SharedParameters table entry.2 parameters ∧
            calls = callsFor shapes entry.2 parameters) r.methods groups ∧
          members = groups.map fun calls => calls.flatMap Call.declarations := by
    rw [Traversal.all_eq_ok_iff, List.forall₂_map_left_iff, exists_map_iff_forall₂]
    simp only [membersOf_eq_ok_iff hs]
  have hflat (groups : List (List Call)) :
      (groups.map fun calls => calls.flatMap Call.declarations).flatten =
        groups.flatten.flatMap Call.declarations := by
    rw [List.flatMap_def, List.map_flatten, List.flatten_flatten, List.map_map]
    rfl
  unfold source declarations
  rw [horBoth]
  constructor
  · intro h
    cases hg : Traversal.all (membersOf table shapes) (r.methods.map Prod.snd) with
    | error e => simp [hg] at h
    | ok members =>
        obtain ⟨groups, hgroups, rfl⟩ := (hall members).mp hg
        simp only [hg, hflat, textOfDeclarations_opening, openingLines_append hp,
          Except.ok.injEq] at h
        exact ⟨groups, hgroups, h.symm⟩
  · rintro ⟨groups, hgroups, rfl⟩
    have hg := (hall _).mpr ⟨groups, hgroups, rfl⟩
    simp only [hg, hflat, textOfDeclarations_opening, openingLines_append hp]

end Interface

end

/-! ## Names without dots -/

/-- **The sources are filled templates.** In a named package, for names without dots and at least
one wanted shape: the source of a schema is exactly its class, and the source of a resource is
exactly its interface. In the calls of an interface every declared parameter stands once, because
the order of a call is a permutation of the declared parameters. -/
theorem sources_eq_ok_iff {package : String} {shapes : Shapes} (hp : package ≠ "")
    (hs : shapes ≠ .neither) (table : TypeTable) (classes : ClassMap) :
    (∀ s : Schema, '.' ∉ s.id.toList → ∀ text,
      Model.source package table classes s = .ok text ↔
        IsClassOf table classes package s.id s text) ∧
    (∀ r : Resource, '.' ∉ (Interface.typeName r).toList → ∀ text,
      Interface.source package table shapes r = .ok text ↔
        IsInterfaceOf table shapes package (Interface.typeName r) r text) ∧
    ∀ m : Method, m.WellKeyed → ∀ ordered, arrange m = .ok ordered →
      ordered.Perm m.parameters := by
  have hname (name : String) (h : '.' ∉ name.toList) : declaredName package name = name :=
    if_neg h
  refine ⟨?_, ?_, ?_⟩
  · intro s hdot text
    rw [Model.source_eq_ok_iff hp, hname s.id hdot]
  · intro r hdot text
    rw [Interface.source_eq_ok_iff hp hs, hname _ hdot]
  · intro m hm ordered ha
    exact perm_of_arrange hm ha

/-- A schema with a property that a class map may name. -/
def diskSchema : Schema :=
  ⟨"Disk", [("id", .primitive "uint64" none),
    ("sizes", .array "array" (.primitive "integer" (some "int64")))]⟩

/-- A method that takes a body and two parameters, the second of them first. -/
def insertMethod : Method where
  name := "insert"
  httpMethod := "POST"
  path := "disks"
  request := some ⟨"Disk", "disk"⟩
  response := none
  parameters := [("max-results", ⟨.primitive "integer" none, some "query", false⟩),
    ("zone", ⟨.primitive "string" none, some "path", true⟩)]
  parameterOrder := some ["zone"]

set_option maxRecDepth 2000 in
/-- The class of a schema and the interface of a resource, as they are written. -/
theorem sources_disk :
    ∃ class_ interface_,
      Model.source "api" .standard [("id", "Long")] diskSchema = .ok class_ ∧
      IsClassOf .standard [("id", "Long")] "api" "Disk" diskSchema class_ ∧
      Interface.source "api" .standard .both ⟨"disk_ops", [("insert", insertMethod)]⟩ =
        .ok interface_ ∧
      IsInterfaceOf .standard .both "api" "DiskOps" ⟨"disk_ops", [("insert", insertMethod)]⟩
        interface_ ∧
      insertMethod.WellKeyed ∧
      ∃ ordered, arrange insertMethod = .ok ordered ∧ ordered.Perm insertMethod.parameters := by
  have hp : "api" ≠ "" := by decide
  have hs : Shapes.both ≠ .neither := by decide
  obtain ⟨hclass, hinterface, horder⟩ :=
    sources_eq_ok_iff hp hs TypeTable.standard [("id", "Long")]
  obtain ⟨c, hc⟩ : Returns (Model.source "api" .standard [("id", "Long")] diskSchema) := ⟨_, rfl⟩
  obtain ⟨i, hi⟩ : Returns (Interface.source "api" .standard .both
    ⟨"disk_ops", [("insert", insertMethod)]⟩) := ⟨_, rfl⟩
  have hwell : insertMethod.WellKeyed := by decide
  obtain ⟨ordered, ho⟩ : Returns (arrange insertMethod) := ⟨_, rfl⟩
  have htype : Interface.typeName ⟨"disk_ops", [("insert", insertMethod)]⟩ = "DiskOps" := by
    decide
  refine ⟨c, i, hc, ?_, hi, ?_, hwell, ordered, ho, horder insertMethod hwell ordered ho⟩
  · exact (hclass diskSchema (by decide) c).mp hc
  · have hmembers := (hinterface ⟨"disk_ops", [("insert", insertMethod)]⟩ (by decide) i).mp hi
    rw [htype] at hmembers
    exact hmembers

end RestBindings.Binding
