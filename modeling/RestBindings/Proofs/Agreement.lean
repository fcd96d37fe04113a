import RestBindings.Proofs.Generation
import RestBindings.Proofs.Naming
import RestBindings.Proofs.Units

/-!
# File, package and type name of a unit

A unit belongs at the path of its type: the directory of its package, then the name of the type.
The path is put together from the package and the name, while the declaration shortens a
qualified name, and does so only when the rest of it holds no dot.

`generate_agrees_iff` gives the exact condition: the units of a run into memory stand in the
directories of their packages, whatever the names are, and all of them declare the types of
their paths exactly when no schema id and no resource name holds a dot.
-/

namespace RestBindings.Binding

open Discovery Output Source

/-! ## Paths and declarations -/

/-- The directory of a package: slashes in place of its dots. -/
def directoryOf (package : String) : String :=
  String.ofList (package.toList.map fun c => if c = '.' then '/' else c)

/-- The path of a type of a package. -/
def pathOf (package name : String) : String :=
  directoryOf package ++ "/" ++ name ++ ".java"

/-- The text begins with the clause of a package. -/
def BeginsIn (package text : String) : Prop :=
  ∃ rest, Text.lines text = ("package " ++ package ++ ";") :: rest

/-- The line that opens the type of a unit: the first one with a modifier in front. -/
def openingLine? (text : String) : Option String :=
  (Text.lines text).find? fun line => "public ".toList.isPrefixOf line.toList

/-- The type that a unit declares is printed under a name. -/
def Declares (name text : String) : Prop :=
  ∃ kind ∈ ["class", "interface"],
    openingLine? text = some ("public " ++ kind ++ " " ++ name ++ " \x7b")

/-- A unit is in the package of its directory and declares the type of its file. -/
def Agree (path text : String) : Prop :=
  ∃ package name, path = pathOf package name ∧ '/' ∉ name.toList ∧
    BeginsIn package text ∧ Declares name text

variable {package name text : String}

/-- A file in the directory of a package has the path of a type. -/
theorem filePath_eq_pathOf (package name : String) :
    Package.filePath package (name ++ ".java") = pathOf package name := by
  rw [← String.toList_inj, Package.filePath, Text.toList_join, Text.cut, List.map_append,
    List.map_map]
  have hid : String.toList ∘ String.ofList = id := funext fun _ => String.toList_ofList
  have hsep : "/".toList = ['/'] := rfl
  rw [hid, List.map_id, List.map_singleton, hsep,
    Text.joinWith_concat _ _ (Text.splitOn_ne_nil '.' package.toList),
    Text.joinWith_splitOn_eq_map]
  simp [pathOf, directoryOf]

/-- The name of the type of a path is what stands behind the last slash. -/
theorem name_eq_of_pathOf_eq {package' name' : String}
    (h : pathOf package name = pathOf package' name') (hn : '/' ∉ name.toList)
    (hn' : '/' ∉ name'.toList) : name = name' := by
  -- reversed, the names stand in front of the first slash
  have hback (package name : String) : (pathOf package name).toList.reverse =
      (".java".toList.reverse ++ name.toList.reverse) ++
        '/' :: (directoryOf package).toList.reverse := by
    simp [pathOf]
  have hfront (s : String) (hs : '/' ∉ s.toList) :
      '/' ∉ ".java".toList.reverse ++ s.toList.reverse := by
    rw [← List.reverse_append, List.mem_reverse, List.mem_append, not_or]
    exact ⟨hs, by decide⟩
  have hparts := congrArg (fun path => Text.splitOn '/' path.toList.reverse) h
  simp only [hback] at hparts
  rw [Text.splitOn_append_cons (hfront name hn), Text.splitOn_append_cons (hfront name' hn')]
    at hparts
  have hreversed := List.append_cancel_left (List.cons.inj hparts).1
  exact String.toList_inj.mp (List.reverse_inj.mp hreversed)

/-! ## The declaration of a unit -/

/-- No line of a header begins with a modifier. -/
theorem not_isPrefixOf_of_mem_headerLines {d : Declaration} {line : String}
    (h : line ∈ d.headerLines) : ("public ".toList.isPrefixOf line.toList) = false := by
  cases d with
  | imports names =>
      obtain ⟨name, -, rfl⟩ := List.mem_map.mp h
      simp only [String.toList_append]
      rfl
  | emptyLine =>
      rw [List.mem_singleton.mp h]
      rfl
  | _ => cases h

/-- **The first lines of a public unit.** It begins with the clause of its package, and the line
that opens its type is the first one with a modifier in front. -/
theorem beginsIn_unit {kind : String} (hkind : kind ∈ ["class", "interface"])
    {header : List Declaration} (members : List String) (hp : package ≠ "")
    (hline : '\n' ∉ package.toList)
    (hheader : ∀ line ∈ header.flatMap Declaration.headerLines, '\n' ∉ line.toList)
    (hname : '\n' ∉ name.toList) :
    let text := Writer.textOf
      (unitLines package (package ++ "." ++ name) kind ["public"] header members)
    BeginsIn package text ∧ openingLine? text = some ("public " ++ kind ++ " " ++
      (if '.' ∈ name.toList then package ++ "." ++ name else name) ++ " \x7b") := by
  have hkindLine : '\n' ∉ kind.toList := by
    have hboth : ∀ kind ∈ ["class", "interface"], '\n' ∉ kind.toList := by decide
    exact hboth kind hkind
  have htype : '\n' ∉
      (typeLine package (package ++ "." ++ name) kind ["public"]).toList := by
    rw [typeLine_public hp]
    split_ifs <;> simp [hkindLine, hline, hname]
  obtain ⟨tail, htail⟩ := exists_lines_unit members hp hline hheader htype
  refine ⟨⟨_, htail⟩, ?_⟩
  have hclause : ("public ".toList.isPrefixOf ("package " ++ package ++ ";").toList) = false := by
    simp only [String.toList_append]
    rfl
  have hempty : ("public ".toList.isPrefixOf "".toList) = false := rfl
  have hskip : (header.flatMap Declaration.headerLines).find?
      (fun line => "public ".toList.isPrefixOf line.toList) = none := by
    refine List.find?_eq_none.mpr fun line hmem => ?_
    obtain ⟨d, -, hd⟩ := List.mem_flatMap.mp hmem
    rw [not_isPrefixOf_of_mem_headerLines hd]
    exact Bool.false_ne_true
  have hfound : ("public ".toList.isPrefixOf
      (typeLine package (package ++ "." ++ name) kind ["public"]).toList) = true := by
    rw [typeLine_public hp]
    simp only [String.toList_append]
    rfl
  rw [openingLine?, htail, List.cons_append, List.find?_cons, hclause, List.cons_append,
    List.find?_cons, hempty, List.find?_append, hskip, List.find?_cons, hfound, Option.none_or,
    typeLine_public hp]

/-- A text whose type is opened under a name of its package declares the name exactly when the
name holds no dot. -/
theorem declares_iff {kind : String} (hkind : kind ∈ ["class", "interface"])
    (h : openingLine? text = some ("public " ++ kind ++ " " ++
      (if '.' ∈ name.toList then package ++ "." ++ name else name) ++ " \x7b")) :
    Declares name text ↔ '.' ∉ name.toList := by
  constructor
  · rintro ⟨other, hother, hopening⟩ hdot
    rw [h, if_pos hdot] at hopening
    have hline := congrArg String.toList (Option.some.inj hopening)
    simp only [List.mem_cons, List.not_mem_nil, or_false] at hkind hother
    rcases hkind with rfl | rfl <;> rcases hother with rfl | rfl
    · have hlength := congrArg List.length hline
      simp at hlength
      omega
    · simp at hline
    · simp at hline
    · have hlength := congrArg List.length hline
      simp at hlength
      omega
  · intro hdot
    rw [if_neg hdot] at h
    exact ⟨kind, hkind, h⟩

/-! ## The units of a run -/

/-- The unit of a type of a package is stored at the path of the type and begins with the clause
of the package; it declares the type by its name exactly when the name holds no dot. -/
def HasUnit (units : Memory.Units) (package name : String) : Prop :=
  ∃ text, Memory.text? (pathOf package name) units = some text ∧ BeginsIn package text ∧
    (Declares name text ↔ '.' ∉ name.toList)

/-- A unit agrees with its path exactly when the name of its type holds no dot. -/
theorem HasUnit.agree_iff {units : Memory.Units} (h : HasUnit units package name)
    (hn : '/' ∉ name.toList) :
    (∃ text, Memory.text? (pathOf package name) units = some text ∧
      Agree (pathOf package name) text) ↔ '.' ∉ name.toList := by
  obtain ⟨text, htext, hbegin, hdeclares⟩ := h
  have hagree : Agree (pathOf package name) text ↔ Declares name text := by
    constructor
    · rintro ⟨package', name', hpath, hn', -, hdeclares⟩
      rw [name_eq_of_pathOf_eq hpath hn hn']
      exact hdeclares
    · exact fun hdeclares => ⟨package, name, rfl, hn, hbegin, hdeclares⟩
  rw [← hdeclares, ← hagree]
  constructor
  · rintro ⟨other, hother, h⟩
    rw [htext] at hother
    obtain rfl := Option.some.inj hother
    exact h
  · exact fun h => ⟨text, htext, h⟩

variable {options : Options} {d : Document} {p q : Progress Memory.Units}
  {locations : List String}

/-- The package of a base URL whose host has a nonempty label is not empty and holds no line
feed. -/
theorem package_of_label {base : String} {parts : Url.Parts}
    (hurl : Url.split base.toList = .ok parts) {label : List Char}
    (hl : label ∈ Text.splitOn '.' parts.host) (hne : label ≠ [])
    (hp : Package.ofUrl base = .ok package) : package ≠ "" ∧ '\n' ∉ package.toList := by
  obtain ⟨found, hfound, ho⟩ := Package.exists_host_of_ofUrl hp
  obtain rfl : found = parts := Except.ok.inj (hfound.symm.trans hurl)
  constructor
  · rintro rfl
    exact Package.ofHost_ne_nil ho (Package.labels_ne_nil hl hne) rfl
  · intro hmem
    rcases Package.isPart_of_mem_ofHost ho hmem with hdot | hpart
    · exact absurd hdot (by decide)
    · exact absurd hpart (by decide)

/-- A character below the letters is in the name of an interface exactly when it is in the name
of its resource. -/
theorem mem_typeName_iff {k : Char} (hk : Unicode.BelowLetters k) (r : Resource) :
    k ∈ (Interface.typeName r).toList ↔ k ∈ r.name.toList := by
  rw [Interface.typeName, Identifier.interfaceName, String.toList_ofList]
  exact Identifier.mem_interfaceChars_iff hk r.name.toList

/-- The class of a schema is the unit of its type. -/
theorem hasUnit_of_schema (hline : '\n' ∉ package.toList) {s : Schema}
    (hid : '\n' ∉ s.id.toList) {units : Memory.Units}
    (h : ∃ text, (modelUnit options package s).source = .ok text ∧
      Memory.text? (modelUnit options package s).path units = some text) :
    HasUnit units (modelPackage package) s.id := by
  obtain ⟨text, hsource, htext⟩ := h
  obtain ⟨members, rfl⟩ := Model.exists_members_of_source hsource
  have hmodelLine : '\n' ∉ (modelPackage package).toList := by simp [modelPackage, hline]
  have hkind : "class" ∈ ["class", "interface"] := by decide
  have hheader : ∀ line ∈ Model.header.flatMap Declaration.headerLines, '\n' ∉ line.toList := by
    decide
  obtain ⟨hbegin, hopening⟩ :=
    beginsIn_unit hkind members (modelPackage_ne_empty package) hmodelLine hheader hid
  refine ⟨_, ?_, hbegin, declares_iff hkind hopening⟩
  rw [← filePath_eq_pathOf]
  exact htext

/-- Imports of names without line feeds are lines without line feeds. -/
theorem notMem_imports {names : List String} (h : ∀ name ∈ names, '\n' ∉ name.toList) :
    ∀ line ∈ (Declaration.imports names).headerLines, '\n' ∉ line.toList := by
  intro line hmem
  obtain ⟨name, hname, rfl⟩ := List.mem_map.mp hmem
  simpa using h name hname

/-- The lines between the package clause and an interface hold no line feed. -/
theorem Interface.notMem_header (hline : '\n' ∉ package.toList) :
    ∀ line ∈ (Interface.header package).flatMap Declaration.headerLines,
      '\n' ∉ line.toList := by
  have hmodel : '\n' ∉ (package ++ ".model.*").toList := by simp [hline]
  have hlist : '\n' ∉ "java.util.List".toList := by decide
  have hclient : ∀ name ∈ clientImports, '\n' ∉ name.toList := by decide
  have hempty : ∀ line ∈ Declaration.emptyLine.headerLines, '\n' ∉ line.toList :=
    List.forall_mem_singleton.mpr List.not_mem_nil
  intro line hmem
  obtain ⟨d, hd, hmem⟩ := List.mem_flatMap.mp hmem
  simp only [header, List.mem_cons, List.not_mem_nil, or_false] at hd
  rcases hd with rfl | rfl | rfl | rfl | rfl | rfl
  · exact notMem_imports (List.forall_mem_singleton.mpr hmodel) line hmem
  · exact hempty line hmem
  · exact notMem_imports (List.forall_mem_singleton.mpr hlist) line hmem
  · exact hempty line hmem
  · exact notMem_imports hclient line hmem
  · exact hempty line hmem

/-- The interface of a resource is the unit of its type. -/
theorem hasUnit_of_resource (hp : package ≠ "") (hline : '\n' ∉ package.toList) {r : Resource}
    (hname : '\n' ∉ r.name.toList) {units : Memory.Units}
    (h : ∃ text, (interfaceUnit options package r).source = .ok text ∧
      Memory.text? (interfaceUnit options package r).path units = some text) :
    HasUnit units package (Interface.typeName r) := by
  obtain ⟨text, hsource, htext⟩ := h
  obtain ⟨members, rfl⟩ := Interface.exists_members_of_source hsource
  have htype : '\n' ∉ (Interface.typeName r).toList := by
    rw [mem_typeName_iff (by decide)]
    exact hname
  have hkind : "interface" ∈ ["class", "interface"] := by decide
  obtain ⟨hbegin, hopening⟩ :=
    beginsIn_unit hkind members hp hline (Interface.notMem_header hline) htype
  refine ⟨_, ?_, hbegin, declares_iff hkind hopening⟩
  rw [← filePath_eq_pathOf]
  exact htext

/-- **Agreement of file, package and type name.** When a run into memory returns, the host of the
base URL has a nonempty label and no schema id and no resource name holds a slash or a line feed,
then every unit is stored in the directory of its package, at the path of the schema id or of the
interface name, and begins with the clause of the package. It declares the type by this name
exactly when the name holds no dot; so all units agree with their paths exactly when no schema id
and no resource name holds one. -/
theorem generate_agrees_iff
    (hhost : ∃ parts, Url.split d.baseUrl.toList = .ok parts ∧
      ∃ label ∈ Text.splitOn '.' parts.host, label ≠ [])
    (hids : ∀ entry ∈ d.schemas, '/' ∉ entry.2.id.toList ∧ '\n' ∉ entry.2.id.toList)
    (hnames : ∀ entry ∈ d.resources, '/' ∉ entry.2.name.toList ∧ '\n' ∉ entry.2.name.toList)
    (h : generate Memory.store options d p = (.ok locations, q)) :
    ∃ package, Package.ofUrl d.baseUrl = .ok package ∧
      locations = d.schemas.map (fun entry => pathOf (modelPackage package) entry.2.id) ++
        d.resources.map (fun entry => pathOf package (Interface.typeName entry.2)) ∧
      (∀ entry ∈ d.schemas, HasUnit q.store (modelPackage package) entry.2.id) ∧
      (∀ entry ∈ d.resources, HasUnit q.store package (Interface.typeName entry.2)) ∧
      ((∀ path ∈ locations, ∃ text, Memory.text? path q.store = some text ∧ Agree path text) ↔
        (∀ entry ∈ d.schemas, '.' ∉ entry.2.id.toList) ∧
          ∀ entry ∈ d.resources, '.' ∉ entry.2.name.toList) := by
  obtain ⟨package, hp⟩ : Returns (Package.ofUrl d.baseUrl) := (generate_eq_ok_iff.mp h).1
  obtain ⟨parts, hurl, label, hl, hne⟩ := hhost
  obtain ⟨hpackage, hline⟩ := package_of_label hurl hl hne hp
  obtain ⟨hlocations, htexts⟩ := exists_text_of_generate hp h
  have hpaths : locations =
      d.schemas.map (fun entry => pathOf (modelPackage package) entry.2.id) ++
        d.resources.map (fun entry => pathOf package (Interface.typeName entry.2)) := by
    rw [hlocations, unitPaths]
    simp only [Model.fileName, Interface.fileName, filePath_eq_pathOf]
  have hschemas : ∀ entry ∈ d.schemas, HasUnit q.store (modelPackage package) entry.2.id := by
    intro entry he
    exact hasUnit_of_schema hline (hids entry he).2
      (htexts _ (List.mem_append_left _ (List.mem_map_of_mem he)))
  have hresources : ∀ entry ∈ d.resources,
      HasUnit q.store package (Interface.typeName entry.2) := by
    intro entry he
    exact hasUnit_of_resource hpackage hline (hnames entry he).2
      (htexts _ (List.mem_append_right _ (List.mem_map_of_mem he)))
  refine ⟨package, hp, hpaths, hschemas, hresources, ?_⟩
  rw [hpaths, List.forall_mem_append, List.forall_mem_map, List.forall_mem_map]
  refine and_congr (forall₂_congr fun entry he => ?_) (forall₂_congr fun entry he => ?_)
  · exact (hschemas entry he).agree_iff (hids entry he).1
  · have hslash : '/' ∉ (Interface.typeName entry.2).toList := by
      rw [mem_typeName_iff (by decide)]
      exact (hnames entry he).1
    rw [(hresources entry he).agree_iff hslash, mem_typeName_iff (by decide)]

/-- A document with a class and an interface of the given names. -/
def namedDocument (id resource : String) : Document where
  baseUrl := "http://api/"
  name := none
  version := none
  title := none
  schemas := [(id, ⟨id, []⟩)]
  resources := [(resource, ⟨resource, []⟩)]

/-- It is generated by emitting its units in the package `api`. -/
theorem generate_namedDocument (id resource : String) :
    generate Memory.store .standard (namedDocument id resource) (.start []) =
      emitAll Memory.store (unitsIn .standard "api" (namedDocument id resource)) (.start []) :=
  generate_of_ok ofUrl_disksDocument

set_option maxRecDepth 1000 in
/-- The units of a document without dots in its names agree with their paths. -/
theorem agree_namedDocument :
    ∃ locations q, generate Memory.store .standard (namedDocument "Disk" "disk_types") (.start []) =
        (.ok locations, q) ∧
      ∀ path ∈ locations, ∃ text, Memory.text? path q.store = some text ∧ Agree path text := by
  obtain ⟨q, h⟩ : ∃ q, generate Memory.store .standard (namedDocument "Disk" "disk_types")
      (.start []) = (.ok ["api/model/Disk.java", "api/DiskTypes.java"], q) := by
    rw [generate_namedDocument]
    exact exists_eq_of_fst rfl
  obtain ⟨package, -, -, -, -, hiff⟩ := generate_agrees_iff
    ⟨_, rfl, "api".toList, by decide, by decide⟩ (by decide) (by decide) h
  exact ⟨_, q, h, hiff.mpr (by decide)⟩

/-- The class of the schema `a.b`. -/
def dottedSource : String :=
  "package api.model;\n\nimport java.util.List;\n\npublic class api.model.a.b \x7b\n\x7d\n"

set_option maxRecDepth 1000 in
/-- **A dot in an id** keeps the class from being declared by it: the class of the schema `a.b` is
opened as `api.model.a.b`, in the file of `a.b`. -/
theorem dotted_not_agree :
    Memory.text? "api/model/a.b.java"
        (generate Memory.store .standard (namedDocument "a.b" "disks") (.start [])).2.store =
        some dottedSource ∧
      openingLine? dottedSource = some "public class api.model.a.b \x7b" ∧
      ¬ Agree "api/model/a.b.java" dottedSource := by
  have hopening : openingLine? dottedSource = some "public class api.model.a.b \x7b" := rfl
  rw [generate_namedDocument]
  refine ⟨rfl, hopening, ?_⟩
  rintro ⟨package, name, hpath, hn, -, kind, hkind, hdeclared⟩
  have hsample : pathOf "api.model" "a.b" = "api/model/a.b.java" := by
    rw [← filePath_eq_pathOf]
    rfl
  obtain rfl := name_eq_of_pathOf_eq (hsample.trans hpath) (by decide) hn
  have hnone : ∀ kind ∈ ["class", "interface"], some "public class api.model.a.b \x7b" ≠
      some ("public " ++ kind ++ " " ++ "a.b" ++ " \x7b") := by decide
  exact hnone kind hkind (hopening.symm.trans hdeclared)

end RestBindings.Binding
