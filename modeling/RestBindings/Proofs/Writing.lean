import RestBindings.Proofs.Traversal
import RestBindings.Source.Writer

/-!
# Writing one unit of source

A unit of this library opens one type behind its package clause, writes members into it and
closes it. The members are the declarations of one line (`memberLine?`): writing them adds
their lines at the current depth and changes nothing else (`writeAll_members`). So a unit of
this shape has known lines (`textOfDeclarations_unit`) and is never refused
(`returns_textOfDeclarations`), and an error of a builder never comes from the writer.
-/

namespace RestBindings.Source

open Writer

/-! ## Lines and open types -/

namespace Writer

variable (w : Writer)

@[simp] theorem openTypes_line (text : String) : (w.line text).openTypes = w.openTypes := rfl

@[simp] theorem lines_line (text : String) :
    (w.line text).lines = w.lines ++ [indented w.openTypes.length text] := rfl

/-- Without open types lines are not indented. -/
theorem indented_zero (text : String) : indented 0 text = text := by
  unfold indented
  split_ifs with h
  · exact (String.isEmpty_iff.mp h).symm
  · exact String.empty_append

/-- Writing a list in two steps. -/
theorem writeAll_append {w v : Writer} {ds : List Declaration} (h : w.writeAll ds = .ok v)
    (es : List Declaration) : w.writeAll (ds ++ es) = v.writeAll es := by
  induction ds generalizing w with
  | nil => cases h; rfl
  | cons d rest ih =>
      rw [List.cons_append, writeAll]
      rw [writeAll] at h
      cases hd : w.write d with
      | error e => rw [hd] at h; cases h
      | ok u =>
          rw [hd] at h
          exact ih h

end Writer

/-! ## Members -/

/-- The line of a declaration that stands inside a type, without its indentation. -/
def Declaration.memberLine? : Declaration → Option String
  | .field type name modifiers => some (words (modifiers ++ [type, name]) ++ ";")
  | .annotate name argument => some (annotationText name argument)
  | .method returnType name parameters modifiers =>
    some (memberText returnType name parameters modifiers)
  | _ => none

/-- A member adds its line. -/
theorem write_of_memberLine {d : Declaration} {text : String} (h : d.memberLine? = some text)
    (w : Writer) : w.write d = .ok (w.line text) := by
  cases d <;> simp only [Declaration.memberLine?, reduceCtorEq, Option.some.injEq] at h <;>
    subst h <;> rfl

/-- Members add their lines at the current depth and change nothing else. -/
theorem writeAll_members {ds : List Declaration} {texts : List String}
    (h : ds.map Declaration.memberLine? = texts.map some) (w : Writer) :
    w.writeAll ds =
      .ok { w with lines := w.lines ++ texts.map (indented w.openTypes.length) } := by
  induction ds generalizing w texts with
  | nil =>
      obtain rfl : texts = [] := by simpa using h.symm
      simp [writeAll]
  | cons d rest ih =>
      obtain ⟨text, texts, rfl⟩ : ∃ text ts, texts = text :: ts := by
        cases texts with
        | nil => simp at h
        | cons text ts => exact ⟨text, ts, rfl⟩
      simp only [List.map_cons, List.cons.injEq] at h
      rw [writeAll, write_of_memberLine h.1]
      simp only [ih h.2, openTypes_line, lines_line, List.append_assoc, List.singleton_append,
        List.map_cons]
      rfl

/-- The lines of declarations that all are members. -/
theorem exists_memberLines {ds : List Declaration}
    (h : ∀ d ∈ ds, (Declaration.memberLine? d).isSome) :
    ∃ texts : List String, ds.map Declaration.memberLine? = texts.map some := by
  induction ds with
  | nil => exact ⟨[], rfl⟩
  | cons d rest ih =>
      obtain ⟨text, ht⟩ := Option.isSome_iff_exists.mp (h d List.mem_cons_self)
      obtain ⟨texts, hts⟩ := ih fun e he => h e (List.mem_cons_of_mem _ he)
      exact ⟨text :: texts, by simp [ht, hts]⟩

/-! ## Headers -/

/-- What stands between the package clause and the type. -/
def Declaration.isHeader : Declaration → Bool
  | .imports _ => true
  | .emptyLine => true
  | _ => false

/-- The lines of a declaration between the package clause and the type. -/
def Declaration.headerLines : Declaration → List String
  | .imports names => names.map fun name => "import " ++ name ++ ";"
  | .emptyLine => [""]
  | _ => []

/-- Import clauses add their lines at the current depth. -/
theorem foldl_imports (names : List String) (w : Writer) :
    names.foldl (fun w name => w.line ("import " ++ name ++ ";")) w =
      { w with lines := w.lines ++
          (Declaration.imports names).headerLines.map (indented w.openTypes.length) } := by
  induction names generalizing w with
  | nil => simp [Declaration.headerLines]
  | cons name rest ih =>
      rw [List.foldl_cons, ih]
      simp only [Declaration.headerLines, openTypes_line, lines_line, List.map_cons,
        List.append_assoc, List.singleton_append]
      rfl

/-- Header declarations add their lines at the current depth and change nothing else. -/
theorem writeAll_header {ds : List Declaration} (h : ∀ d ∈ ds, Declaration.isHeader d = true)
    (w : Writer) :
    w.writeAll ds = .ok { w with lines := w.lines ++
      (ds.flatMap Declaration.headerLines).map (indented w.openTypes.length) } := by
  induction ds generalizing w with
  | nil => simp [writeAll]
  | cons d rest ih =>
      rw [List.forall_mem_cons] at h
      have hd : w.write d = .ok
          { w with lines := w.lines ++ d.headerLines.map (indented w.openTypes.length) } := by
        cases d with
        | imports names => exact congrArg Except.ok (foldl_imports names w)
        | emptyLine => rfl
        | _ => exact absurd h.1 (by simp [Declaration.isHeader])
      rw [writeAll, hd]
      simp only [ih h.2, List.flatMap_cons, List.map_append, List.append_assoc]

/-! ## Units -/

/-- The lines of a package clause; the unnamed package has none. -/
def clauseLines (package : String) : List String :=
  if package.isEmpty then [] else ["package " ++ package ++ ";", ""]

/-- The clause of a named package is one line, with an empty one behind it. -/
theorem clauseLines_of_ne_empty {package : String} (hp : package ≠ "") :
    clauseLines package = ["package " ++ package ++ ";", ""] :=
  if_neg fun he => hp (String.isEmpty_iff.mp he)

/-- The name of a type as a unit of a package writes it. -/
def typeNameIn (package type : String) : String :=
  if package.isEmpty then type else simpleName package type

/-- The line that opens a type. -/
def typeLine (package name kind : String) (modifiers : List String) : String :=
  words (modifiers ++ [kind, typeNameIn package name]) ++ " \x7b"

/-- The lines of a unit that opens one type: the package clause, a header, the type and its
members, and the end of the type. -/
def unitLines (package name kind : String) (modifiers : List String)
    (header : List Declaration) (members : List String) : List String :=
  clauseLines package ++ header.flatMap Declaration.headerLines ++
    (typeLine package name kind modifiers :: members.map (indented 1) ++ ["\x7d"])

/-- A package clause on an empty unit. -/
theorem putPackage_empty (package : String) :
    Writer.empty.putPackage package = ⟨clauseLines package, some package, []⟩ := by
  unfold putPackage clauseLines
  split_ifs
  · rfl
  · simp only [Writer.empty, line, List.nil_append, List.length_nil, indented_zero,
      List.singleton_append]

/-- **The text of a unit**: package clause, header, one type with members and its end. -/
theorem textOfDeclarations_unit (package name kind : String) (modifiers : List String)
    {header members : List Declaration} {texts : List String}
    (hh : ∀ d ∈ header, Declaration.isHeader d = true)
    (hm : members.map Declaration.memberLine? = texts.map some) :
    textOfDeclarations ((.package package :: header ++
      [.beginType name kind modifiers]) ++ members ++ [.endType]) =
      .ok (textOf (unitLines package name kind modifiers header texts)) := by
  have hclause : Writer.empty.write (.package package) =
      .ok ⟨clauseLines package, some package, []⟩ :=
    congrArg Except.ok (putPackage_empty package)
  have hheader : Writer.empty.writeAll (.package package :: header) =
      .ok ⟨clauseLines package ++ header.flatMap Declaration.headerLines, some package, []⟩ := by
    have hplain : (indented 0) = id := funext indented_zero
    rw [writeAll, hclause]
    simp only [writeAll_header hh, List.length_nil, hplain, List.map_id]
  have hname (ls : List String) :
      (⟨ls, some package, []⟩ : Writer).compressType name = typeNameIn package name := rfl
  have hlines : unitLines package name kind modifiers header texts =
      clauseLines package ++ header.flatMap Declaration.headerLines ++
        [typeLine package name kind modifiers] ++ texts.map (indented 1) ++ ["\x7d"] := by
    simp [unitLines]
  rw [textOfDeclarations, List.append_assoc, List.append_assoc, writeAll_append hheader,
    List.singleton_append, writeAll, write, hname]
  simp only [line, List.length_nil, indented_zero]
  rw [writeAll_append (writeAll_members hm _)]
  simp only [writeAll, write, line, List.length_nil, List.length_singleton, indented_zero,
    Writer.text, hlines]
  rfl

/-- **A unit is never refused**: package clause, header, one type with members and its end are
written to the last, and no type is left open. -/
theorem returns_textOfDeclarations (package name kind : String) (modifiers : List String)
    (header : List Declaration) {members : List Declaration}
    (hh : ∀ d ∈ header, Declaration.isHeader d = true)
    (hm : ∀ d ∈ members, (Declaration.memberLine? d).isSome) :
    Returns (textOfDeclarations ((.package package :: header ++
      [.beginType name kind modifiers]) ++ members ++ [.endType])) := by
  obtain ⟨texts, ht⟩ := exists_memberLines hm
  exact ⟨_, textOfDeclarations_unit package name kind modifiers hh ht⟩

end RestBindings.Source
