import RestBindings.Proofs.Calls
import RestBindings.Proofs.Documents
import RestBindings.Proofs.Literals

/-!
# What the annotation of a parameter says

A parameter that a request carries in its path or its query is annotated with its name in the
document. The name is put between quotes as it is, while the path of a method goes through
`Source.Literal.quote`.

`keepsName_iff` gives the exact condition: the argument of the annotation is one literal that
stands for the name exactly when the name holds neither a quote nor a backslash.
-/

namespace RestBindings.Binding

open Discovery Source

/-- The annotation of a parameter by its location. -/
def annotationFor (location : Option String) : Option String :=
  if location = some "path" then some "Path"
  else if location = some "query" then some "Query"
  else none

/-- The text begins with an annotation whose argument is one string literal that stands for a
name: scanning it from its opening quote stops right before the closing parenthesis. -/
def KeepsName (label name text : String) : Prop :=
  ∃ argument body rest, text.toList = '@' :: label.toList ++ '(' :: argument ∧
    Literal.scan argument = some (body, ')' :: rest) ∧ Literal.unescape body = name.toList

/-- The text of a parameter that is annotated with its name between quotes. -/
def annotatedText (label name declaration : String) : String :=
  "@" ++ label ++ "(\"" ++ name ++ "\") " ++ declaration

variable {table : TypeTable} {shapes : Shapes} {m : Method}

/-- The mark of a parameter with an annotation is the annotation of its name. -/
theorem text_markFor {name label : String} {location : Option String}
    (h : annotationFor location = some label) (type identifier : String) :
    (⟨Signature.markFor name location, type, identifier⟩ : Argument).text =
      annotatedText label name (type ++ " " ++ identifier) := by
  rw [annotationFor] at h
  by_cases hpath : location = some "path"
  · rw [if_pos hpath] at h
    obtain rfl := Option.some.inj h
    rw [Signature.markFor, if_pos hpath]
    simp [Argument.text, Mark.text, annotatedText, String.append_assoc]
  · rw [if_neg hpath] at h
    by_cases hquery : location = some "query"
    · rw [if_pos hquery] at h
      obtain rfl := Option.some.inj h
      rw [Signature.markFor, if_neg hpath, if_pos hquery]
      simp [Argument.text, Mark.text, annotatedText, String.append_assoc]
    · rw [if_neg hquery] at h
      cases h

/-- Every declared parameter is an argument of every call, with its mark. -/
theorem exists_argument_of_mem (hm : m.WellKeyed) {signatures : List Signature}
    (h : signaturesOf table shapes m = .ok signatures) {s : Signature} (hs : s ∈ signatures)
    {named : Named} (hn : named ∈ m.parameters) :
    ∃ type identifier,
      ⟨Signature.markFor named.1 named.2.location, type, identifier⟩ ∈ s.arguments := by
  obtain ⟨ordered, hp, hall⟩ := forall₂_signaturesOf hm h
  obtain ⟨shape, -, bodies, arguments, -, ha, rfl⟩ := exists_of_mem_of_forall₂ hall hs
  obtain ⟨a, hmem, hparameter⟩ := exists_of_mem_of_forall₂ ha.flip (hp.mem_iff.mpr hn)
  refine ⟨a.type, a.identifier, ?_⟩
  rw [← (Signature.parameterArgument_eq_ok hparameter).2]
  exact List.mem_append_left _ (List.mem_append_right _ hmem)

/-- **When an annotated text keeps the name.** The literal between its parentheses stands for
the name exactly when the name holds neither a quote nor a backslash. -/
theorem keepsName_annotatedText_iff (label name declaration : String) :
    KeepsName label name (annotatedText label name declaration) ↔
      '"' ∉ name.toList ∧ '\\' ∉ name.toList := by
  have htext : (annotatedText label name declaration).toList =
      '@' :: label.toList ++ '(' :: ('"' :: name.toList ++
        '"' :: ')' :: ' ' :: declaration.toList) := by
    simp [annotatedText]
  rw [KeepsName, htext]
  constructor
  · rintro ⟨argument, body, rest, hargument, hscan, hvalue⟩
    have hcancel := List.append_cancel_left hargument
    obtain rfl := (List.cons.inj hcancel).2
    exact (Literal.exists_scan_bare_iff _ _).mp ⟨body, _, hscan, hvalue⟩
  · rintro ⟨hq, hb⟩
    refine ⟨_, name.toList, ' ' :: declaration.toList, rfl, ?_, Literal.unescape_of_plain hb⟩
    rw [List.cons_append, Literal.scan, Literal.scanBody_of_plain hq hb]

/-- **The annotation of a parameter** with a location in the path or the query, in every call of
its method: it stands in front of the declaration of the parameter, and its argument is one
literal that stands for the name of the parameter exactly when the name holds neither a quote
nor a backslash. -/
theorem keepsName_iff (hm : m.WellKeyed) {signatures : List Signature}
    (h : signaturesOf table shapes m = .ok signatures) :
    ∀ s ∈ signatures, ∀ named ∈ m.parameters, ∀ label,
      annotationFor named.2.location = some label →
        ∃ declaration, annotatedText label named.1 declaration ∈ s.argumentTexts ∧
          (KeepsName label named.1 (annotatedText label named.1 declaration) ↔
            '"' ∉ named.1.toList ∧ '\\' ∉ named.1.toList) := by
  intro s hs named hn label hlabel
  obtain ⟨type, identifier, hmem⟩ := exists_argument_of_mem hm h hs hn
  refine ⟨type ++ " " ++ identifier, ?_, keepsName_annotatedText_iff _ _ _⟩
  rw [← text_markFor hlabel]
  exact List.mem_map_of_mem hmem

/-- A method with one query parameter. -/
def queryMethod (name : String) : Method where
  name := "get"
  httpMethod := "GET"
  path := "x"
  request := none
  response := none
  parameters := [(name, ⟨.primitive "string" none, some "query", false⟩)]
  parameterOrder := none

/-- A name without quotes and backslashes is kept. -/
theorem keepsName_maxResults :
    (queryMethod "max-results").WellKeyed ∧ ∃ signatures,
      signaturesOf .standard .both (queryMethod "max-results") = .ok signatures ∧
      annotationFor (some "query") = some "Query" ∧
      ∀ s ∈ signatures, ∃ text ∈ s.argumentTexts, KeepsName "Query" "max-results" text := by
  have hwell : (queryMethod "max-results").WellKeyed := by decide
  have hquery : annotationFor (some "query") = some "Query" := by decide
  obtain ⟨signatures, h⟩ : Returns (signaturesOf .standard .both (queryMethod "max-results")) :=
    ⟨_, rfl⟩
  refine ⟨hwell, signatures, h, hquery, fun s hs => ?_⟩
  obtain ⟨declaration, hmem, hiff⟩ :=
    keepsName_iff hwell h s hs _ List.mem_cons_self "Query" hquery
  exact ⟨_, hmem, hiff.mpr (by decide)⟩

/-- **A quote in a name** ends the literal of its annotation: the call is built, and its only
argument does not keep the name. -/
theorem queryMethod_quote_not_keepsName :
    (signaturesOf .standard (.only .sync) (queryMethod "a\"b")).map
        (List.map Signature.argumentTexts) = .ok [["@Query(\"a\"b\") String a_b"]] ∧
      ¬ KeepsName "Query" "a\"b" "@Query(\"a\"b\") String a_b" := by
  refine ⟨rfl, ?_⟩
  have htext : "@Query(\"a\"b\") String a_b" = annotatedText "Query" "a\"b" "String a_b" := by
    decide
  rw [htext, keepsName_annotatedText_iff]
  decide

end RestBindings.Binding
