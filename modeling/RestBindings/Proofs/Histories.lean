import Mathlib.Data.List.Induction
import RestBindings.Proofs.Writing

/-!
# A writer after any calls

A writer may be called in any order, and a caller may go on after a call that was refused. A
`History` lists the calls; `after` is the writer behind them, `kept` are the calls that were not
refused, and `log` has every line that they wrote, without its indentation but with the number of
types that were open.

What one declaration does is said once (`write_cases`): it is refused and changes nothing, or it
adds its texts at its level, sets the package, and opens or closes a type. By induction on the
history from its end, the open types are those opened and not closed (`length_openTypes`), and the
lines are those of the log (`lines_after`). A type that is open has been opened by one declaration
and has been open ever since (`exists_beginType`), which is where its closing brace finds its level.

`Regular` lists what this comes to, and `regular_of_calls` has it for every history.
-/

namespace RestBindings.Source

open Writer

/-! ## Calls -/

/-- One use of a writer. -/
inductive WriterCall
  | write (d : Declaration)
  /-- Asks for the name of a type as the unit writes it. -/
  | compress (type : String)
  /-- Asks for the text of the unit. -/
  | read
  deriving DecidableEq, Repr

/-- The calls of a writer, the first one first. -/
abbrev History := List WriterCall

namespace Writer

/-- What a call answers, if anything, and the writer behind it. -/
def call (w : Writer) : WriterCall → Except Error (Option String) × Writer
  | .write d =>
    match w.write d with
    | .ok v => (.ok none, v)
    | .error e => (.error e, w)
  | .compress type => (.ok (some (w.compressType type)), w)
  | .read => (w.text.map some, w)

/-- The call is refused. -/
def refuses (w : Writer) (c : WriterCall) : Bool :=
  match (w.call c).1 with
  | .ok _ => false
  | .error _ => true

/-- The writer behind calls, whatever became of them. -/
def callAll (w : Writer) (h : History) : Writer :=
  h.foldl (fun w c => (w.call c).2) w

/-- The calls that are not refused. -/
def keptOf (w : Writer) : History → History
  | [] => []
  | c :: rest =>
    if w.refuses c then (w.call c).2.keptOf rest else c :: (w.call c).2.keptOf rest

end Writer

/-- The call opens a type, if it is not refused. -/
def WriterCall.opens : WriterCall → Bool
  | .write (.beginType ..) => true
  | _ => false

/-- The call closes a type, if it is not refused. -/
def WriterCall.closes : WriterCall → Bool
  | .write .endType => true
  | _ => false

/-- The declaration that a call writes. -/
def WriterCall.declaration? : WriterCall → Option Declaration
  | .write d => some d
  | _ => none

/-! ## Histories -/

/-- The writer behind a history. -/
def after (h : History) : Writer :=
  Writer.empty.callAll h

/-- The calls of a history that were not refused. -/
def kept (h : History) : History :=
  Writer.empty.keptOf h

/-- The number of types opened. -/
def opened (h : History) : Nat :=
  (kept h).countP WriterCall.opens

/-- The number of types closed. -/
def closed (h : History) : Nat :=
  (kept h).countP WriterCall.closes

/-- The number of types opened and not closed. -/
def depth (h : History) : Nat :=
  opened h - closed h

/-- The lines that a declaration stands for, without their indentation. -/
def Declaration.texts (w : Writer) : Declaration → List String
  | .package name => clauseLines name
  | .beginType name kind modifiers => [words (modifiers ++ [kind, w.compressType name]) ++ " \x7b"]
  | .endType => ["\x7d"]
  | .imports names => names.map fun name => "import " ++ name ++ ";"
  | .emptyLine => [""]
  | .field type name modifiers => [words (modifiers ++ [type, name]) ++ ";"]
  | .annotate name argument => [annotationText name argument]
  | .method returnType name parameters modifiers =>
    [memberText returnType name parameters modifiers]

/-- The level of a declaration where some types are open: the end of a type stands outside of
it. -/
def Declaration.levelAt (openTypes : Nat) : Declaration → Nat
  | .endType => openTypes - 1
  | _ => openTypes

/-- The level of a declaration behind a history. -/
def level (h : History) (d : Declaration) : Nat :=
  d.levelAt (depth h)

/-- A line with where it comes from. -/
structure Entry where
  origin : Declaration
  level : Nat
  text : String
  deriving DecidableEq, Repr

/-- The line of an entry: two blanks for each level in front of the text, but none in front of an
empty one. -/
def Entry.line (e : Entry) : String :=
  if e.text = "" then "" else String.ofList (List.replicate (2 * e.level) ' ') ++ e.text

/-- The entry is the clause of a package. -/
def Entry.IsClause (e : Entry) : Prop :=
  (∃ name, e.origin = .package name) ∧ e.text ≠ ""

/-- The entries of a call behind a history. -/
def entriesOf (h : History) : WriterCall → List Entry
  | .write d =>
    if (after h).refuses (.write d) then []
    else (d.texts (after h)).map fun text => ⟨d, level h d, text⟩
  | _ => []

/-- The entries of calls that follow a history. -/
def logBehind (h : History) : History → List Entry
  | [] => []
  | c :: rest => entriesOf h c ++ logBehind (h ++ [c]) rest

/-- The lines that a history has written. -/
def log (h : History) : List Entry :=
  logBehind [] h

/-! ## One declaration -/

/-- The declaration cannot stand where it is: a package clause behind a line, or the end of a type
where none is open. -/
def Declaration.Misplaced (w : Writer) : Declaration → Prop
  | .package _ => w.lines ≠ []
  | .endType => w.openTypes = []
  | _ => False

/-- The package behind a declaration. -/
def Declaration.packageBehind (before : Option String) : Declaration → Option String
  | .package name => some name
  | _ => before

/-- The open types behind a declaration. -/
def Declaration.typesBehind (before : List String) : Declaration → List String
  | .beginType name _ _ => name :: before
  | .endType => before.tail
  | _ => before

namespace Writer

/-- A writer with one more declaration. -/
def extended (w : Writer) (d : Declaration) : Writer where
  lines := w.lines ++ (d.texts w).map (indented (d.levelAt w.openTypes.length))
  package := d.packageBehind w.package
  openTypes := d.typesBehind w.openTypes

/-- **What a declaration can do**: it is misplaced and refused, or it extends the writer. -/
theorem write_cases (w : Writer) (d : Declaration) :
    (d.Misplaced w ∧ ∃ e, w.write d = .error e) ∨
      (¬ d.Misplaced w ∧ w.write d = .ok (w.extended d)) := by
  cases d with
  | package name =>
      rw [write]
      by_cases hlines : w.lines = []
      · refine .inr ⟨fun hne => hne hlines, ?_⟩
        have hput : w.putPackage name = w.extended (.package name) := by
          unfold putPackage extended
          simp only [Declaration.texts, clauseLines]
          split_ifs
          · simp [Declaration.packageBehind, Declaration.typesBehind]
          · simp [line, Declaration.packageBehind, Declaration.typesBehind, Declaration.levelAt]
        rw [if_pos (List.isEmpty_iff.mpr hlines), hput]
      · exact .inl ⟨hlines, _, if_neg fun hempty => hlines (List.isEmpty_iff.mp hempty)⟩
  | imports names => exact .inr ⟨id, congrArg Except.ok (foldl_imports names w)⟩
  | endType =>
      rw [write]
      cases ho : w.openTypes with
      | nil => exact .inl ⟨ho, _, rfl⟩
      | cons type outer =>
          refine .inr ⟨fun hnone => List.cons_ne_nil _ _ (ho.symm.trans hnone), ?_⟩
          simp [extended, line, Declaration.texts, Declaration.levelAt, Declaration.packageBehind,
            Declaration.typesBehind, ho]
  | _ => exact .inr ⟨id, rfl⟩

/-! ## One call -/

theorem refuses_write_iff {w : Writer} {d : Declaration} :
    w.refuses (.write d) = true ↔ d.Misplaced w := by
  rw [refuses, call]
  rcases write_cases w d with ⟨hd, e, hw⟩ | ⟨hd, hw⟩ <;> simp [hw, hd]

/-- The text is refused exactly when a type is open. -/
theorem refuses_read_iff {w : Writer} : w.refuses .read = true ↔ w.openTypes ≠ [] := by
  rw [refuses, call, text]
  cases w.openTypes <;> simp [Except.map]

/-- A refused call leaves the writer as it was. -/
theorem call_of_refuses {w : Writer} {c : WriterCall} (hc : w.refuses c = true) :
    (w.call c).2 = w := by
  cases c with
  | write d =>
      rcases write_cases w d with ⟨-, e, hw⟩ | ⟨hd, -⟩
      · rw [call, hw]
      · exact absurd (refuses_write_iff.mp hc) hd
  | compress type => rfl
  | read => rfl

/-- A declaration that is not refused extends the writer. -/
theorem call_write {w : Writer} {d : Declaration} (hd : ¬ w.refuses (.write d) = true) :
    w.write d = .ok (w.extended d) ∧ (w.call (.write d)).2 = w.extended d := by
  rcases write_cases w d with ⟨hmisplaced, -⟩ | ⟨-, hw⟩
  · exact absurd (refuses_write_iff.mpr hmisplaced) hd
  · rw [call, hw]
    exact ⟨rfl, rfl⟩

theorem callAll_concat (w : Writer) (h : History) (c : WriterCall) :
    w.callAll (h ++ [c]) = ((w.callAll h).call c).2 :=
  List.foldl_append

theorem keptOf_concat (w : Writer) (h : History) (c : WriterCall) :
    w.keptOf (h ++ [c]) =
      if (w.callAll h).refuses c then w.keptOf h else w.keptOf h ++ [c] := by
  induction h generalizing w with
  | nil => rfl
  | cons first rest ih =>
      have hbehind : w.callAll (first :: rest) = (w.call first).2.callAll rest := rfl
      rw [List.cons_append, keptOf, ih, keptOf, hbehind]
      split_ifs <;> rfl

end Writer

/-! ## One more call -/

section

variable (h : History) (c : WriterCall)

theorem after_concat : after (h ++ [c]) = ((after h).call c).2 :=
  callAll_concat _ h c

theorem kept_concat : kept (h ++ [c]) = if (after h).refuses c then kept h else kept h ++ [c] :=
  keptOf_concat _ h c

theorem logBehind_concat (front : History) :
    logBehind front (h ++ [c]) = logBehind front h ++ entriesOf (front ++ h) c := by
  induction h generalizing front with
  | nil => simp [logBehind]
  | cons first rest ih => simp [logBehind, ih]

theorem log_concat : log (h ++ [c]) = log h ++ entriesOf h c :=
  logBehind_concat h c []

variable {h c}

/-- A refused call counts for nothing. -/
theorem concat_of_refuses (hc : (after h).refuses c = true) :
    after (h ++ [c]) = after h ∧ kept (h ++ [c]) = kept h := by
  rw [after_concat, kept_concat, if_pos hc]
  exact ⟨call_of_refuses hc, rfl⟩

end

/-! ## All calls -/

/-- **The open types are those opened and not closed.** -/
theorem length_openTypes (h : History) : (after h).openTypes.length + closed h = opened h := by
  induction h using List.reverseRecOn with
  | nil => rfl
  | append_singleton h c ih =>
      by_cases hc : (after h).refuses c = true
      · obtain ⟨hafter, hkept⟩ := concat_of_refuses hc
        rw [hafter, closed, opened, hkept]
        exact ih
      · rw [closed, opened, kept_concat, if_neg hc, List.countP_append, List.countP_append]
        rw [closed, opened] at ih
        cases c with
        | write d =>
            rw [after_concat, (call_write hc).2, extended]
            cases d with
            | beginType name kind modifiers =>
                simp [Declaration.typesBehind, WriterCall.opens, WriterCall.closes]
                omega
            | endType =>
                have hopen : (after h).openTypes ≠ [] := fun hnone =>
                  hc (refuses_write_iff.mpr hnone)
                have hlength := List.length_pos_iff.mpr hopen
                simp [Declaration.typesBehind, WriterCall.opens, WriterCall.closes]
                omega
            | _ => simpa [Declaration.typesBehind, WriterCall.opens, WriterCall.closes] using ih
        | compress type => simpa [after_concat, call, WriterCall.opens, WriterCall.closes] using ih
        | read => simpa [after_concat, call, WriterCall.opens, WriterCall.closes] using ih

/-- The depth is the number of open types. -/
theorem depth_eq (h : History) : depth h = (after h).openTypes.length := by
  have hcount := length_openTypes h
  rw [depth]
  omega

theorem Entry.line_eq (e : Entry) : e.line = indented e.level e.text := by
  simp only [line, indented, indent, String.isEmpty_iff]

/-- The lines that one call adds. -/
theorem lines_concat (h : History) (c : WriterCall) :
    (after (h ++ [c])).lines = (after h).lines ++ (entriesOf h c).map Entry.line := by
  have hline : Entry.line = fun e => indented e.level e.text := funext Entry.line_eq
  cases c with
  | write d =>
      by_cases hc : (after h).refuses (.write d) = true
      · rw [(concat_of_refuses hc).1, entriesOf, if_pos hc, List.map_nil, List.append_nil]
      · rw [after_concat, (call_write hc).2, extended, entriesOf, if_neg hc, List.map_map, hline,
          ← depth_eq]
        rfl
  | compress type => simp [after_concat, call, entriesOf]
  | read => simp [after_concat, call, entriesOf]

/-- **The lines are those of the log.** -/
theorem lines_after (h : History) : (after h).lines = (log h).map Entry.line := by
  induction h using List.reverseRecOn with
  | nil => rfl
  | append_singleton h c ih => rw [lines_concat, log_concat, List.map_append, ih]

/-- **The calls that were not refused are never refused on their own**, and they lead to the same
writer. -/
theorem writeAll_kept (h : History) :
    Writer.empty.writeAll ((kept h).filterMap WriterCall.declaration?) = .ok (after h) := by
  induction h using List.reverseRecOn with
  | nil => rfl
  | append_singleton h c ih =>
      by_cases hc : (after h).refuses c = true
      · obtain ⟨hafter, hkept⟩ := concat_of_refuses hc
        rw [hafter, hkept, ih]
      · rw [kept_concat, if_neg hc, List.filterMap_append, writeAll_append ih, after_concat]
        cases c with
        | write d =>
            obtain ⟨hwrite, hcall⟩ := call_write hc
            simp [WriterCall.declaration?, writeAll, hwrite, hcall]
        | compress type => rfl
        | read => rfl

/-- A history without its refused calls leads to the same writer. -/
theorem after_kept (h : History) : after (kept h) = after h := by
  induction h using List.reverseRecOn with
  | nil => rfl
  | append_singleton h c ih =>
      by_cases hc : (after h).refuses c = true
      · obtain ⟨hafter, hkept⟩ := concat_of_refuses hc
        rw [hafter, hkept, ih]
      · rw [kept_concat, if_neg hc, after_concat, after_concat, ih]

/-! ## Package clauses and closing braces -/

/-- **A package clause is the first line**, so there is at most one. -/
theorem eq_zero_of_isClause {h : History} {i : Nat} {e : Entry} (he : (log h)[i]? = some e)
    (hclause : e.IsClause) : i = 0 := by
  induction h using List.reverseRecOn with
  | nil => cases he
  | append_singleton h c ih =>
      rw [log_concat] at he
      by_cases hi : i < (log h).length
      · rw [List.getElem?_append_left hi] at he
        exact ih he
      · rw [List.getElem?_append_right (Nat.not_lt.mp hi)] at he
        obtain ⟨⟨name, horigin⟩, htext⟩ := hclause
        cases c with
        | write d =>
            rw [entriesOf] at he
            split_ifs at he with hc
            · cases he
            · rw [List.getElem?_map, Option.map_eq_some_iff] at he
              obtain ⟨text, htexts, rfl⟩ := he
              obtain rfl : d = .package name := horigin
              -- nothing is written yet, and of the clause and the empty line behind it only the
              -- clause has a text
              have hnone : log h = [] := by
                have hlines : (after h).lines = [] := by
                  by_contra hne
                  exact hc (refuses_write_iff.mpr hne)
                rwa [lines_after, List.map_eq_nil_iff] at hlines
              rw [hnone, List.length_nil, Nat.sub_zero, Declaration.texts, clauseLines] at htexts
              split_ifs at htexts
              · cases htexts
              · match i, htexts with
                | 0, _ => rfl
                | 1, htexts => exact absurd (Option.some.inj htexts).symm htext
                | _ + 2, htexts => cases htexts
        | compress type => cases he
        | read => cases he

/-- What is open behind one more call was open before it, or is what it opens. -/
theorem suffix_openTypes_concat {h : History} {c : WriterCall} {type : String} {outer : List String}
    (hs : type :: outer <:+ (after (h ++ [c])).openTypes) :
    type :: outer <:+ (after h).openTypes ∨
      ∃ kind modifiers, c = .write (.beginType type kind modifiers) ∧
        (after h).openTypes = outer := by
  by_cases hc : (after h).refuses c = true
  · rw [(concat_of_refuses hc).1] at hs
    exact .inl hs
  · rw [after_concat] at hs
    cases c with
    | write d =>
        rw [(call_write hc).2, extended] at hs
        cases d with
        | beginType name kind modifiers =>
            rcases List.suffix_cons_iff.mp hs with heq | hs
            · obtain ⟨rfl, rfl⟩ := List.cons.inj heq
              exact .inr ⟨kind, modifiers, rfl, rfl⟩
            · exact .inl hs
        | endType => exact .inl (hs.trans (List.tail_suffix _))
        | _ => exact .inl hs
    | compress type => exact .inl hs
    | read => exact .inl hs

/-- **What is open has been opened and stayed open**, by induction on the history from its end:
there is the declaration that opened it, and the type and those around it have been open behind
every call since. -/
theorem exists_beginType {h : History} {type : String} {outer : List String}
    (hs : type :: outer <:+ (after h).openTypes) :
    ∃ front kind modifiers middle, h = front ++ .write (.beginType type kind modifiers) :: middle ∧
      (after front).openTypes = outer ∧ ∀ part, part <+: middle →
        type :: outer <:+
          (after (front ++ .write (.beginType type kind modifiers) :: part)).openTypes := by
  induction h using List.reverseRecOn with
  | nil => exact absurd (List.suffix_nil.mp hs) (List.cons_ne_nil _ _)
  | append_singleton h c ih =>
      rcases suffix_openTypes_concat hs with hs' | ⟨kind, modifiers, rfl, rfl⟩
      · obtain ⟨front, kind, modifiers, middle, rfl, hfront, hmiddle⟩ := ih hs'
        refine ⟨front, kind, modifiers, middle ++ [c], by simp, hfront, fun part hpart => ?_⟩
        rcases List.prefix_concat_iff.mp hpart with rfl | hpart
        · simpa using hs
        · exact hmiddle part hpart
      · refine ⟨h, kind, modifiers, [], rfl, rfl, fun part hpart => ?_⟩
        obtain rfl := List.prefix_nil.mp hpart
        exact hs

/-- A closing brace stands at the level of the declaration of its type, which has been open since
then. -/
theorem exists_level_eq {h : History} (hc : ¬ (after h).refuses (.write .endType) = true) :
    ∃ front name kind modifiers middle,
      h = front ++ .write (.beginType name kind modifiers) :: middle ∧
        (∀ part, part <+: middle →
          depth front < depth (front ++ .write (.beginType name kind modifiers) :: part)) ∧
        level h .endType = level front (.beginType name kind modifiers) := by
  have hopen : (after h).openTypes ≠ [] := fun hnone => hc (refuses_write_iff.mpr hnone)
  obtain ⟨type, outer, ho⟩ := List.exists_cons_of_ne_nil hopen
  have hs : type :: outer <:+ (after h).openTypes := ho ▸ List.suffix_rfl
  obtain ⟨front, kind, modifiers, middle, heq, hfront, hmiddle⟩ := exists_beginType hs
  refine ⟨front, type, kind, modifiers, middle, heq, fun part hpart => ?_, ?_⟩
  · have hlength := (hmiddle part hpart).length_le
    rw [depth_eq, depth_eq, hfront]
    exact hlength
  · have hdepth : depth h = depth front + 1 := by
      rw [depth_eq, depth_eq, ho, hfront, List.length_cons]
    exact congrArg Nat.pred hdepth

/-! ## Any calls -/

/-- What holds of a writer behind a history. -/
structure Regular (h : History) : Prop where
  /-- The end of a type is refused exactly when as many types are closed as opened. -/
  endType_refused : (after h).refuses (.write .endType) = true ↔ closed h = opened h
  /-- The text is refused exactly when more types are opened than closed. -/
  read_refused : (after h).refuses .read = true ↔ closed h < opened h
  /-- A package is refused exactly when there is a line. -/
  package_refused : ∀ name, (after h).refuses (.write (.package name)) = true ↔ log h ≠ []
  /-- Nothing else is refused. -/
  refused : ∀ c, (after h).refuses c = true →
    c = .write .endType ∨ c = .read ∨ ∃ name, c = .write (.package name)
  /-- A refused call leaves the writer as it was. -/
  unchanged : ∀ c, (after h).refuses c = true → after (h ++ [c]) = after h
  /-- Without the refused calls there is the same writer behind the history. -/
  kept : after (kept h) = after h
  /-- The declarations that were not refused are written in one go. -/
  written : Writer.empty.writeAll ((Source.kept h).filterMap WriterCall.declaration?) =
    .ok (after h)
  /-- Every line is that of an entry, indented by its level. -/
  lines : (after h).lines = (log h).map Entry.line
  /-- A closing brace stands at the level of the declaration of its type: the one behind which
  the type has been open ever since. -/
  brace : ¬ (after h).refuses (.write .endType) = true → ∃ front name kind modifiers middle,
    h = front ++ .write (.beginType name kind modifiers) :: middle ∧
      (∀ part, part <+: middle →
        depth front < depth (front ++ .write (.beginType name kind modifiers) :: part)) ∧
      level h .endType = level front (.beginType name kind modifiers)
  /-- There is at most one package clause, in the first line. -/
  clause : ∀ i e, (log h)[i]? = some e → e.IsClause → i = 0

/-- **A writer stays regular whatever it is called for**, refused calls included. -/
theorem regular_of_calls (h : History) : Regular h where
  endType_refused := by
    have hcount := length_openTypes h
    rw [refuses_write_iff, Declaration.Misplaced, ← List.length_eq_zero_iff]
    omega
  read_refused := by
    have hcount := length_openTypes h
    rw [refuses_read_iff, ← List.length_pos_iff]
    omega
  package_refused name := by
    rw [refuses_write_iff, Declaration.Misplaced, lines_after, ne_eq, List.map_eq_nil_iff]
  refused c hc := by
    cases c with
    | write d =>
        have hmisplaced := refuses_write_iff.mp hc
        cases d with
        | package name => exact .inr (.inr ⟨name, rfl⟩)
        | endType => exact .inl rfl
        | _ => exact hmisplaced.elim
    | compress type => cases hc
    | read => exact .inr (.inl rfl)
  unchanged c hc := (concat_of_refuses hc).1
  kept := after_kept h
  written := writeAll_kept h
  lines := lines_after h
  brace hc := exists_level_eq hc
  clause i e he hclause := eq_zero_of_isClause he hclause

end RestBindings.Source
