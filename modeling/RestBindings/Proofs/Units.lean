import RestBindings.Binding.Generation
import RestBindings.Proofs.Building
import RestBindings.Proofs.Emission
import RestBindings.Text.Lines

/-!
# The lines of a unit

The text of a unit begins with its package clause, an empty line and the lines of its header;
then one line opens its type (`exists_lines_unit`). These lines come back when the text is cut
at its line feeds, because none of them holds one; what the members hold does not matter.

The class of a schema and the interface of a resource are such units
(`Model.exists_members_of_source`, `Interface.exists_members_of_source`).
-/

namespace RestBindings

namespace Source

open Writer

/-! ## Cutting a text into its lines -/

/-- Lines without line feeds come back, whatever stands behind them. -/
theorem exists_lines_textOf {front : List String} (h : ∀ line ∈ front, '\n' ∉ line.toList)
    (rest : List String) :
    ∃ tail, Text.lines (textOf (front ++ rest)) = front ++ tail := by
  induction front with
  | nil =>
      refine ⟨Text.lines (textOf rest), ?_⟩
      rw [List.nil_append, List.nil_append]
  | cons line others ih =>
      rw [List.forall_mem_cons] at h
      obtain ⟨tail, htail⟩ := ih h.2
      have hnext : ∃ behind : List Char,
          (textOf (line :: (others ++ rest))).toList = line.toList ++ '\n' :: behind ∧
            (others = [] ∨ behind = (textOf (others ++ rest)).toList) := by
        cases hmore : others ++ rest with
        | nil =>
            refine ⟨[], ?_, .inl (List.append_eq_nil_iff.mp hmore).1⟩
            simp [textOf, Text.joinWith]
        | cons next more =>
            refine ⟨(textOf (next :: more)).toList, ?_, .inr rfl⟩
            simp [textOf, Text.joinWith]
      obtain ⟨behind, htext, hbehind⟩ := hnext
      have hcut : Text.lines (textOf (line :: (others ++ rest))) =
          line :: (Text.splitOn '\n' behind).map String.ofList := by
        rw [Text.lines, Text.cut, htext, Text.splitOn_append_cons h.1, List.map_cons,
          String.ofList_toList]
      rw [List.cons_append, hcut]
      rcases hbehind with rfl | rfl
      · exact ⟨(Text.splitOn '\n' behind).map String.ofList, rfl⟩
      · rw [Text.lines, Text.cut] at htail
        exact ⟨tail, congrArg (line :: ·) htail⟩

/-! ## Names of types -/

/-- What stands behind a text comes back when the text is dropped. -/
theorem dropFront_append (front s : List Char) : dropFront front (front ++ s) = some s := by
  induction front with
  | nil => rfl
  | cons c rest ih =>
      rw [List.cons_append, dropFront, if_pos rfl]
      exact ih

/-- A type of a package is written by its name, unless the name holds a dot. -/
theorem typeNameIn_append {package : String} (hp : package ≠ "") (name : String) :
    typeNameIn package (package ++ "." ++ name) =
      if '.' ∈ name.toList then package ++ "." ++ name else name := by
  have hdrop : dropFront (package.toList ++ ['.']) (package ++ "." ++ name).toList =
      some name.toList := by
    have htext : (package ++ "." ++ name).toList =
        (package.toList ++ ['.']) ++ name.toList := by simp
    rw [htext, dropFront_append]
  have hempty : ¬ package.isEmpty = true := fun h => hp (String.isEmpty_iff.mp h)
  rw [typeNameIn, if_neg hempty, simpleName, hdrop]
  simp only [List.contains_eq_mem, decide_eq_true_eq, String.ofList_toList]

/-- The line that opens a public type of a package. -/
theorem typeLine_public {package : String} (hp : package ≠ "") (name kind : String) :
    typeLine package (package ++ "." ++ name) kind ["public"] =
      "public " ++ kind ++ " " ++
        (if '.' ∈ name.toList then package ++ "." ++ name else name) ++ " \x7b" := by
  rw [typeLine, typeNameIn_append hp, ← String.toList_inj]
  simp [words, Text.joinWith]

/-! ## The first lines of a unit -/

/-- **The first lines of a unit** of a named package: the package clause, an empty line, the
header and the line that opens the type. -/
theorem exists_lines_unit {package name kind : String} {modifiers : List String}
    {header : List Declaration} (members : List String) (hp : package ≠ "")
    (hline : '\n' ∉ package.toList)
    (hheader : ∀ line ∈ header.flatMap Declaration.headerLines, '\n' ∉ line.toList)
    (htype : '\n' ∉ (typeLine package name kind modifiers).toList) :
    ∃ tail, Text.lines (textOf (unitLines package name kind modifiers header members)) =
      ("package " ++ package ++ ";") :: "" :: header.flatMap Declaration.headerLines ++
        typeLine package name kind modifiers :: tail := by
  have hsplit : unitLines package name kind modifiers header members =
      (("package " ++ package ++ ";") :: "" :: header.flatMap Declaration.headerLines ++
        [typeLine package name kind modifiers]) ++ (members.map (indented 1) ++ ["\x7d"]) := by
    rw [unitLines, clauseLines_of_ne_empty hp]
    simp
  have hplain : ∀ line ∈ ("package " ++ package ++ ";") :: "" ::
      header.flatMap Declaration.headerLines ++ [typeLine package name kind modifiers],
      '\n' ∉ line.toList := by
    intro line hmem
    rcases List.mem_append.mp hmem with hmem | hmem
    · rcases List.mem_cons.mp hmem with rfl | hmem
      · simpa using hline
      · rcases List.mem_cons.mp hmem with rfl | hmem
        · exact List.not_mem_nil
        · exact hheader line hmem
    · rw [List.mem_singleton.mp hmem]
      exact htype
  obtain ⟨tail, htail⟩ := exists_lines_textOf hplain (members.map (indented 1) ++ ["\x7d"])
  refine ⟨tail, ?_⟩
  rw [hsplit, htail, List.append_assoc, List.singleton_append]

end Source

/-! ## The sources of units -/

namespace Binding

open Discovery Source

variable {table : TypeTable} {text package : String}

/-- What stands between the package clause and the class of a schema. -/
def Model.header : List Declaration :=
  [.imports ["java.util.List"], .emptyLine]

/-- What stands between the package clause and the interface of a resource. -/
def Interface.header (package : String) : List Declaration :=
  [.imports [package ++ ".model.*"], .emptyLine, .imports ["java.util.List"], .emptyLine,
    .imports clientImports, .emptyLine]

/-- The source of a class is the unit of its schema. -/
theorem Model.exists_members_of_source {classes : ClassMap} {s : Schema}
    (h : source package table classes s = .ok text) :
    ∃ members, text = Writer.textOf
      (unitLines package (package ++ "." ++ s.id) "class" ["public"] header members) := by
  rw [source, declarations] at h
  cases hf : Traversal.all (fieldOf table classes s) s.properties with
  | error e => simp [hf] at h
  | ok fields =>
      obtain ⟨members, hm⟩ := exists_memberLines (isSome_memberLine_of_mem hf)
      have hh : ∀ d ∈ Model.header, Declaration.isHeader d = true := by decide
      have htext : textOfDeclarations (opening package s ++ fields ++ [.endType]) =
          .ok (Writer.textOf
            (unitLines package (package ++ "." ++ s.id) "class" ["public"] header members)) :=
        textOfDeclarations_unit package (package ++ "." ++ s.id) "class" ["public"] hh hm
      simp only [hf, htext] at h
      exact ⟨members, (Except.ok.inj h).symm⟩

/-- The source of an interface is the unit of its resource. -/
theorem Interface.exists_members_of_source {shapes : Shapes} {r : Resource}
    (h : source package table shapes r = .ok text) :
    ∃ members, text = Writer.textOf (unitLines package (package ++ "." ++ typeName r) "interface"
      ["public"] (header package) members) := by
  rw [source, declarations] at h
  cases hm : Traversal.all (membersOf table shapes.orBoth) (r.methods.map Prod.snd) with
  | error e => simp [hm] at h
  | ok declared =>
      obtain ⟨members, hlines⟩ := exists_memberLines (isSome_memberLine_of_mem hm)
      have hh : ∀ d ∈ Interface.header package, Declaration.isHeader d = true := by
        simp [Interface.header, Declaration.isHeader]
      have htext : textOfDeclarations (opening package r ++ declared.flatten ++ [.endType]) =
          .ok (Writer.textOf (unitLines package (package ++ "." ++ typeName r) "interface"
            ["public"] (header package) members)) := by
        have hopening : opening package r = .package package :: Interface.header package ++
            [.beginType (package ++ "." ++ typeName r) "interface" ["public"]] := rfl
        rw [hopening]
        exact textOfDeclarations_unit package _ _ _ hh hlines
      simp only [hm, htext] at h
      exact ⟨members, (Except.ok.inj h).symm⟩

end Binding

end RestBindings
