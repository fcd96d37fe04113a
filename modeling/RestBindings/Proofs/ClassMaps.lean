import Mathlib.Data.List.Induction
import RestBindings.Proofs.Cutting
import RestBindings.Proofs.Traversal
import RestBindings.Proofs.Utf8
import RestBindings.Run

/-!
# What a class map is loaded from

A line is well formed (`Line.WellFormed`) when it has exactly one tab, the line ends behind it not
counted. One more line replaces the type of its property if it is well formed, and changes nothing
otherwise (`ofLines_concat`). By induction on the lines, the last line for a property decides its
type (`typeOf?_ofLines_eq_some_iff`), the first one its place (`map_fst_ofLines`), and only the
well-formed lines matter (`ofLines_filter`).

`Writes` says how pairs are written to a file: one per line, with any line ends. A class map that
is loaded from such a file holds the pairs as they were written. `loaded_from_lines` has all of
this.
-/

namespace RestBindings.Binding.ClassMap

/-! ## Lines -/

namespace Line

/-- A line without the line ends behind it. -/
def content (line : String) : List Char :=
  Text.dropTrailing isLineEnd line.toList

/-- The line has exactly one tab. -/
def WellFormed (line : String) : Prop :=
  (content line).count '\t' = 1

/-- What stands in front of the tab. -/
def property (line : String) : String :=
  String.ofList (Text.before '\t' (content line))

/-- What stands behind the tab. -/
def type (line : String) : String :=
  String.ofList (Text.after '\t' (content line))

/-- The line is well formed and has a name in front of its tab. -/
def IsFor (name line : String) : Prop :=
  WellFormed line ∧ property line = name

instance (line : String) : Decidable (WellFormed line) :=
  inferInstanceAs (Decidable (_ = 1))

instance (name line : String) : Decidable (IsFor name line) :=
  inferInstanceAs (Decidable (_ ∧ _))

end Line

open Line

/-- The entry of a line is what stands around its tab, if it is well formed. -/
theorem entryOf_eq (line : String) :
    entryOf line = if WellFormed line then some (property line, type line) else none := by
  unfold entryOf
  by_cases h : WellFormed line
  · rw [if_pos h, ← content, Text.splitOn_of_count_eq_one h]
    rfl
  · rw [if_neg h]
    split
    · next heq =>
        have hlength := Text.length_splitOn '\t' (content line)
        rw [content, heq] at hlength
        exact absurd (Nat.succ.inj hlength).symm h
    · rfl

/-- **One more line** sets the type of its property, if it is well formed. -/
theorem ofLines_concat (lines : List String) (line : String) :
    ofLines (lines ++ [line]) =
      if WellFormed line then Keyed.insert (property line) (type line) (ofLines lines)
      else ofLines lines := by
  rw [ofLines, List.filterMap_append, Keyed.ofList, List.foldl_append, List.filterMap_cons,
    entryOf_eq]
  split_ifs <;> rfl

/-- One more line decides the type of its property only. -/
theorem typeOf?_ofLines_concat (lines : List String) (line name : String) :
    (ofLines (lines ++ [line])).typeOf? name =
      if IsFor name line then some (type line) else (ofLines lines).typeOf? name := by
  rw [ofLines_concat, typeOf?]
  by_cases h : WellFormed line
  · rw [if_pos h, Keyed.get?_insert]
    by_cases hname : property line = name
    · rw [if_pos hname, if_pos ⟨h, hname⟩]
    · rw [if_neg hname, if_neg fun hfor => hname hfor.2]
      rfl
  · rw [if_neg h, if_neg fun hfor => h hfor.1]
    rfl

/-! ## Many lines -/

/-- **The last line for a property decides its type**, by induction on the lines from the end. -/
theorem typeOf?_ofLines_eq_some_iff {lines : List String} {name result : String} :
    (ofLines lines).typeOf? name = some result ↔
      ∃ front line back, lines = front ++ line :: back ∧ (IsFor name line ∧ type line = result) ∧
        ∀ other ∈ back, ¬ IsFor name other := by
  induction lines using List.reverseRecOn with
  | nil => simp [ofLines, Keyed.ofList, typeOf?, Keyed.get?]
  | append_singleton lines line ih =>
      rw [typeOf?_ofLines_concat, exists_split_concat_iff, ← ih]
      split_ifs with h <;> simp [h]

/-- **The first line for a property decides its place.** -/
theorem map_fst_ofLines (lines : List String) :
    (ofLines lines).map Prod.fst =
      ((lines.filter WellFormed).map property).eraseDups := by
  induction lines using List.reverseRecOn with
  | nil => rfl
  | append_singleton lines line ih =>
      rw [ofLines_concat, List.filter_append, List.map_append, List.eraseDups_append]
      by_cases h : WellFormed line
      · rw [if_pos h, Keyed.map_fst_insert, ih, List.filter_cons_of_pos (by simpa using h)]
        simp only [List.mem_eraseDups, List.filter_nil, List.map_cons, List.map_nil]
        split_ifs with hm <;> simp [List.removeAll, hm, List.eraseDups_cons]
      · rw [if_neg h, ih, List.filter_cons_of_neg (by simpa using h)]
        simp [List.removeAll]

/-- **Only the well-formed lines matter.** -/
theorem ofLines_filter (lines : List String) :
    ofLines (lines.filter WellFormed) = ofLines lines := by
  induction lines using List.reverseRecOn with
  | nil => rfl
  | append_singleton lines line ih =>
      rw [List.filter_append, ofLines_concat]
      by_cases h : WellFormed line
      · rw [if_pos h, List.filter_cons_of_pos (by simpa using h), List.filter_nil, ofLines_concat,
          if_pos h, ih]
      · rw [if_neg h, List.filter_cons_of_neg (by simpa using h), List.filter_nil,
          List.append_nil, ih]

/-! ## Files -/

/-- The ways to end a line. -/
inductive LineEnd
  | feed
  | returnFeed
  | carriageReturn
  deriving DecidableEq, Repr

/-- The characters of a line end. -/
def LineEnd.chars : LineEnd → List Char
  | feed => ['\n']
  | returnFeed => ['\r', '\n']
  | carriageReturn => ['\r']

/-- The text can stand in a line on one side of a tab. -/
structure IsField (s : String) : Prop where
  noTab : '\t' ∉ s.toList
  noReturn : '\r' ∉ s.toList
  noFeed : '\n' ∉ s.toList

/-- A property and its type on one line. -/
def lineOf (pair : String × String) : List Char :=
  pair.1.toList ++ '\t' :: pair.2.toList

/-- The text holds the pairs in their order, one per line. Every line has an end of any kind; the
last one may have none. -/
inductive Writes : List (String × String) → List Char → Prop
  | nothing : Writes [] []
  | unended {pair : String × String} (property : IsField pair.1) (type : IsField pair.2) :
      Writes [pair] (lineOf pair)
  | ended {pair : String × String} {rest : List (String × String)} {text : List Char}
      (property : IsField pair.1) (type : IsField pair.2) (ending : LineEnd)
      (behind : Writes rest text) : Writes (pair :: rest) (lineOf pair ++ ending.chars ++ text)

/-- The file at a path holds pairs. -/
def HoldsPairs (tree : Files.Tree) (path : String) (pairs : List (String × String)) : Prop :=
  ∃ text, Writes pairs text ∧ tree.readBytes path = .ok (String.ofList text).toUTF8

section

variable {pair : String × String} (hproperty : IsField pair.1) (htype : IsField pair.2)

include hproperty htype

theorem notMem_lineOf {c : Char} (hc : c = '\r' ∨ c = '\n') : c ∉ lineOf pair := by
  rw [lineOf, List.mem_append, List.mem_cons, not_or, not_or]
  rcases hc with rfl | rfl
  · exact ⟨hproperty.noReturn, by decide, htype.noReturn⟩
  · exact ⟨hproperty.noFeed, by decide, htype.noFeed⟩

/-- The line of a pair has the pair for its entry. -/
theorem entryOf_lineOf : entryOf (String.ofList (lineOf pair)) = some pair := by
  have hends : ∀ c ∈ (lineOf pair).reverse, ¬ isLineEnd c = true := by
    intro c hc hend
    have hkind : c = '\r' ∨ c = '\n' := by simpa [isLineEnd] using hend
    exact notMem_lineOf hproperty htype hkind (List.mem_reverse.mp hc)
  have hcontent : Text.dropTrailing isLineEnd (lineOf pair) = lineOf pair := by
    rw [Text.dropTrailing, List.dropWhile_eq_self_iff.mpr, List.reverse_reverse]
    exact fun hl => hends _ (List.getElem_mem hl)
  rw [entryOf, String.toList_ofList, hcontent, lineOf, Text.splitOn_append_cons hproperty.noTab,
    Text.splitOn_of_notMem htype.noTab]
  simp

end

/-- What is written begins with no line feed, so that no return in front of it is taken for a part
of a longer line end. -/
theorem Writes.head?_ne {pairs : List (String × String)} {text : List Char}
    (h : Writes pairs text) : text.head? ≠ some '\n' := by
  have hline {pair : String × String} (hp : IsField pair.1) (ht : IsField pair.2)
      (behind : List Char) : (lineOf pair ++ behind).head? ≠ some '\n' := by
    intro hhead
    have hmem : '\n' ∈ lineOf pair := by
      rw [lineOf] at hhead ⊢
      cases hchars : pair.1.toList with
      | nil => simp [hchars] at hhead
      | cons c rest => simp_all
    exact notMem_lineOf hp ht (.inr rfl) hmem
  cases h with
  | nothing => nofun
  | unended hp ht => simpa using hline hp ht []
  | ended hp ht ending behind =>
      rw [List.append_assoc]
      exact hline hp ht _

/-- A line end of any kind is unified to a line feed, where no line feed follows it. -/
theorem unifyLineEnds_chars (ending : LineEnd) {text : List Char} (h : text.head? ≠ some '\n') :
    Text.unifyLineEnds (ending.chars ++ text) = '\n' :: Text.unifyLineEnds text := by
  cases ending with
  | feed => exact Text.unifyLineEnds_cons (by decide) text
  | returnFeed => rfl
  | carriageReturn =>
      cases text with
      | nil => rfl
      | cons c rest =>
          rw [LineEnd.chars, List.singleton_append, Text.unifyLineEnds.eq_2]
          rintro rest' heq
          rw [heq] at h
          exact h rfl

/-- **The lines of a written text have the pairs for their entries**, by induction on the pairs. -/
theorem Writes.filterMap_entryOf {pairs : List (String × String)} {text : List Char}
    (h : Writes pairs text) :
    ((Text.splitOn '\n' (Text.unifyLineEnds text)).map String.ofList).filterMap entryOf =
      pairs := by
  induction h with
  | nothing => rfl
  | unended hp ht =>
      rw [Text.unifyLineEnds_of_notMem (notMem_lineOf hp ht (.inl rfl)),
        Text.splitOn_of_notMem (notMem_lineOf hp ht (.inr rfl)), List.map_singleton,
        List.filterMap_cons, entryOf_lineOf hp ht]
      rfl
  | ended hp ht ending behind ih =>
      rw [List.append_assoc, Text.unifyLineEnds_append (notMem_lineOf hp ht (.inl rfl)),
        unifyLineEnds_chars ending behind.head?_ne,
        Text.splitOn_append_cons (notMem_lineOf hp ht (.inr rfl)), List.map_cons,
        List.filterMap_cons, entryOf_lineOf hp ht, ih]

/-- A class map is loaded from a file as its pairs were written to it. -/
theorem loadClassMap_of_holdsPairs {tree : Files.Tree} {job : Config.Job} {path : String}
    {pairs : List (String × String)} (hd : Keyed.Distinct pairs) (hjob : job.classMap = some path)
    (hfile : HoldsPairs tree path pairs) : loadClassMap tree job = .ok pairs := by
  obtain ⟨text, hwrites, hbytes⟩ := hfile
  have hpath : path ≠ "" := by
    rintro rfl
    have hempty : tree.readBytes "" = .error (.refused .notFound "") := rfl
    rw [hempty] at hbytes
    cases hbytes
  have hread : tree.readText path = .ok (String.ofList (Text.unifyLineEnds text)) := by
    rw [Files.Tree.readText, hbytes]
    simp only [Files.Tree.textOf, Text.fromUTF8?_toUTF8, String.toList_ofList]
  have hentries : ofLines (Text.lines (String.ofList (Text.unifyLineEnds text))) = pairs := by
    rw [ofLines, Text.lines, Text.cut, String.toList_ofList, hwrites.filterMap_entryOf,
      Keyed.ofList_of_distinct hd]
  have hnamed : job.classMap.filter (· != "") = some path := by
    simp [hjob, hpath]
  rw [loadClassMap, hnamed]
  simp only [hread, hentries]

/-- **Loading a class map.** The type of a property is the one in the last well-formed line for it,
and the properties stand in the order of their first well-formed lines. Lines that are not well
formed change nothing, wherever they are added or left out. A file that holds pairs with distinct
properties, one per line and with any line ends, gives these pairs in their order. -/
theorem loaded_from_lines (lines : List String) :
    (∀ name result, (ofLines lines).typeOf? name = some result ↔
      ∃ front line back, lines = front ++ line :: back ∧ (IsFor name line ∧ type line = result) ∧
        ∀ other ∈ back, ¬ IsFor name other) ∧
    (ofLines lines).map Prod.fst = ((lines.filter WellFormed).map property).eraseDups ∧
    (∀ others : List String, others.filter WellFormed = lines.filter WellFormed →
      ofLines others = ofLines lines) ∧
    ∀ (tree : Files.Tree) (job : Config.Job) (path : String) (pairs : List (String × String)),
      Keyed.Distinct pairs → job.classMap = some path → HoldsPairs tree path pairs →
        loadClassMap tree job = .ok pairs := by
  refine ⟨fun _ _ => typeOf?_ofLines_eq_some_iff, map_fst_ofLines lines, fun others h => ?_,
    fun tree job path pairs hd hjob hfile => loadClassMap_of_holdsPairs hd hjob hfile⟩
  rw [← ofLines_filter others, h, ofLines_filter]

/-- Lines with two types for one property and with lines that are no entries. -/
def mixedLines : List String :=
  ["a\tb\tc", "id\tLong\r\n", "name\tText", "", "id\tInt\n"]

/-- Pairs with an empty type and an empty property. -/
def mixedPairs : List (String × String) :=
  [("id", "Long"), ("kind", ""), ("", "byte[]"), ("name", "Text")]

/-- A file that holds these pairs with every kind of line end, and with none behind the last. -/
def mixedTree : Files.Tree :=
  ⟨[(["map.tsv"], .file "id\tLong\r\nkind\t\r\tbyte[]\nname\tText".toUTF8)], []⟩

/-- A job that names this file. -/
def mixedJob : Config.Job :=
  ⟨"disks.json", "out", some "map.tsv", .both⟩

/-- The last line for a property counts, another line that is no entry does not, and the file is
loaded. -/
theorem loaded_from_mixedLines :
    (ofLines mixedLines).typeOf? "id" = some "Int" ∧
      ofLines ("no override" :: mixedLines) = ofLines mixedLines ∧
      Keyed.Distinct mixedPairs ∧ mixedJob.classMap = some "map.tsv" ∧
      HoldsPairs mixedTree "map.tsv" mixedPairs ∧
      loadClassMap mixedTree mixedJob = .ok mixedPairs := by
  obtain ⟨hlast, -, hskip, hfile⟩ := loaded_from_lines mixedLines
  have hfield (s : String) (h : '\t' ∉ s.toList ∧ '\r' ∉ s.toList ∧ '\n' ∉ s.toList) : IsField s :=
    ⟨h.1, h.2.1, h.2.2⟩
  have hpairs : Keyed.Distinct mixedPairs := by decide
  have hholds : HoldsPairs mixedTree "map.tsv" mixedPairs := by
    refine ⟨_, .ended (hfield _ (by decide)) (hfield _ (by decide)) .returnFeed
      (.ended (hfield _ (by decide)) (hfield _ (by decide)) .carriageReturn
        (.ended (hfield _ (by decide)) (hfield _ (by decide)) .feed
          (.unended (hfield _ (by decide)) (hfield _ (by decide))))), rfl⟩
  refine ⟨(hlast _ _).mpr ?_, hskip _ (by decide), hpairs, rfl, hholds,
    hfile _ _ _ _ hpairs rfl hholds⟩
  exact ⟨mixedLines.dropLast, "id\tInt\n", [], rfl, by decide, nofun⟩

end RestBindings.Binding.ClassMap
