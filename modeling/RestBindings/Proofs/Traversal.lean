import Mathlib.Data.List.Forall2
import Mathlib.Data.List.Nodup
import RestBindings.Keyed
import RestBindings.Traversal

/-!
# Traversals and lists with keys

What the two containers of the library do, said once for all their users.

* A traversal returns exactly when the operation returns on every element
  (`returns_all_iff`), and then its results stand in the order of the elements
  (`all_eq_ok_iff`); otherwise it fails as the first element does (`all_eq_error_iff`). What is done to a result afterwards can be done to the list of results
  (`all_map`, `all_shared`).
* A lookup finds the first entry with the key (`mem_of_get?`, `get?_eq_none_iff`); where no
  key occurs twice it finds every entry (`get?_eq_some_iff`).
* Storing under a new key adds an entry at the end (`insert_of_notMem`), and no list built by
  storing holds a key twice (`distinct_ofList`); a list that does not is stored as it is
  (`ofList_of_distinct`).
-/

namespace RestBindings

variable {α β γ ε κ : Type}

/-- The computation ends with a value. -/
def Returns (r : Except ε α) : Prop :=
  ∃ a, r = .ok a

@[simp] theorem returns_ok (a : α) : Returns (.ok a : Except ε α) :=
  ⟨a, rfl⟩

@[simp] theorem not_returns_error (e : ε) : ¬ Returns (.error e : Except ε α) := by
  rintro ⟨a, h⟩
  cases h

/-- A computation whose value is processed further ends with a value when it did before. -/
@[simp] theorem returns_map_iff (g : α → β) (r : Except ε α) :
    Returns (r.map g) ↔ Returns r := by
  cases r <;> simp [Except.map]

/-- A computation whose value is processed further fails as before. -/
theorem map_eq_error_iff (g : α → β) {r : Except ε α} {e : ε} :
    r.map g = .error e ↔ r = .error e := by
  cases r <;> simp [Except.map]

/-- A pair with a known first part. -/
theorem exists_eq_of_fst {r : α × β} {a : α} (h : r.1 = a) : ∃ b, r = (a, b) :=
  ⟨r.2, Prod.ext h rfl⟩

/-- What a lookup finds stands in the list, under the key that was looked up. -/
theorem mem_of_lookup [BEq α] [LawfulBEq α] {entries : List (α × β)} {a : α} {b : β}
    (h : entries.lookup a = some b) : (a, b) ∈ entries := by
  obtain ⟨front, back, rfl, -⟩ := List.lookup_eq_some_iff.mp h
  exact List.mem_append_right _ List.mem_cons_self

/-! ## Traversals -/

/-- In two lists that correspond element by element, every element of the second has a partner
in the first. -/
theorem exists_of_mem_of_forall₂ {R : α → β → Prop} {l : List α} {bs : List β}
    (h : List.Forall₂ R l bs) {b : β} (hb : b ∈ bs) : ∃ a ∈ l, R a b := by
  induction h with
  | nil => cases hb
  | cons hab _ ih =>
      rcases List.mem_cons.mp hb with rfl | hb
      · exact ⟨_, List.mem_cons_self, hab⟩
      · obtain ⟨a, ha, hR⟩ := ih hb
        exact ⟨a, List.mem_cons_of_mem _ ha, hR⟩

/-- The first element of a list with some property, all in front of it having another one, is the
head, or is found behind it. -/
theorem exists_split_cons_iff {P Q : α → Prop} {a : α} {rest : List α} :
    (∃ front b back, a :: rest = front ++ b :: back ∧ (∀ c ∈ front, P c) ∧ Q b) ↔
      Q a ∨ P a ∧ ∃ front b back, rest = front ++ b :: back ∧ (∀ c ∈ front, P c) ∧ Q b := by
  constructor
  · rintro ⟨_ | ⟨c, front⟩, b, back, heq, hfront, hb⟩
    · cases heq
      exact .inl hb
    · cases heq
      rw [List.forall_mem_cons] at hfront
      exact .inr ⟨hfront.1, front, b, back, rfl, hfront.2, hb⟩
  · rintro (ha | ⟨ha, front, b, back, rfl, hfront, hb⟩)
    · exact ⟨[], a, rest, rfl, nofun, ha⟩
    · exact ⟨a :: front, b, back, rfl, List.forall_mem_cons.mpr ⟨ha, hfront⟩, hb⟩

/-- The last element of a list with some property, all behind it having another one, is the end,
or is found in front of it. -/
theorem exists_split_concat_iff {P Q : α → Prop} {l : List α} {a : α} :
    (∃ front b back, l ++ [a] = front ++ b :: back ∧ Q b ∧ ∀ c ∈ back, P c) ↔
      Q a ∨ P a ∧ ∃ front b back, l = front ++ b :: back ∧ Q b ∧ ∀ c ∈ back, P c := by
  constructor
  · rintro ⟨front, b, back, heq, hb, hback⟩
    rcases List.eq_nil_or_concat back with rfl | ⟨init, c, rfl⟩
    · obtain ⟨-, hlast⟩ := List.append_inj' heq rfl
      exact .inl (List.singleton_inj.mp hlast ▸ hb)
    · have hsplit : l ++ [a] = (front ++ b :: init) ++ [c] := by simpa using heq
      obtain ⟨rfl, hlast⟩ := List.append_inj' hsplit rfl
      obtain rfl := List.singleton_inj.mp hlast
      exact .inr ⟨hback a (by simp), front, b, init, rfl, hb, fun d hd => hback d (by simp [hd])⟩
  · rintro (ha | ⟨ha, front, b, back, rfl, hb, hback⟩)
    · exact ⟨l, a, [], rfl, ha, nofun⟩
    · refine ⟨front, b, back ++ [a], by simp, hb, fun c hc => ?_⟩
      rcases List.mem_append.mp hc with hc | hc
      · exact hback c hc
      · exact List.mem_singleton.mp hc ▸ ha

/-- The images of partners of a list correspond to it as the partners do. -/
theorem exists_map_iff_forall₂ {R : α → β → Prop} {f : β → γ} {l : List α} {cs : List γ} :
    (∃ bs, List.Forall₂ R l bs ∧ cs = bs.map f) ↔
      List.Forall₂ (fun a c => ∃ b, R a b ∧ c = f b) l cs := by
  constructor
  · rintro ⟨bs, h, rfl⟩
    rw [List.forall₂_map_right_iff]
    exact h.imp fun a b hab => ⟨b, hab, rfl⟩
  · intro h
    induction h with
    | nil => exact ⟨[], .nil, rfl⟩
    | cons hac _ ih =>
        obtain ⟨b, hab, rfl⟩ := hac
        obtain ⟨bs, hrest, rfl⟩ := ih
        exact ⟨b :: bs, .cons hab hrest, rfl⟩

/-- Lists that correspond by equal images have equal lists of images. -/
theorem map_eq_map_of_forall₂ {f : α → γ} {g : β → γ} {l : List α} {bs : List β}
    (h : List.Forall₂ (fun a b => f a = g b) l bs) : l.map f = bs.map g := by
  induction h with
  | nil => rfl
  | cons hab _ ih => rw [List.map_cons, List.map_cons, hab, ih]

/-- Two lists that correspond to one list element by element correspond to each other. -/
theorem forall₂_of_common {R : α → β → Prop} {S : α → γ → Prop} {T : β → γ → Prop}
    (hRS : ∀ a b c, R a b → S a c → T b c) {l : List α} {bs : List β} {cs : List γ}
    (hR : List.Forall₂ R l bs) (hS : List.Forall₂ S l cs) : List.Forall₂ T bs cs := by
  induction hR generalizing cs with
  | nil =>
      cases hS
      exact .nil
  | @cons a b _ _ hab _ ih =>
      cases hS with
      | @cons _ c _ _ hac hrest => exact .cons (hRS a b c hab hac) (ih hrest)

/-- Combinations of the elements of two lists correspond to the first list as the elements do. -/
theorem forall₂_zipWith {R : α → β → Prop} {P : α → γ → Prop} {f : α → β → γ}
    (h : ∀ a b, R a b → P a (f a b)) {l : List α} {bs : List β} (hR : List.Forall₂ R l bs) :
    List.Forall₂ P l (List.zipWith f l bs) := by
  induction hR with
  | nil => exact .nil
  | cons hab _ ih => exact .cons (h _ _ hab) ih

namespace Traversal

variable {f : α → Except ε β}

/-- The results of a traversal are the results for the elements, in their order. -/
theorem all_eq_ok_iff {l : List α} {bs : List β} :
    all f l = .ok bs ↔ List.Forall₂ (fun a b => f a = .ok b) l bs := by
  induction l generalizing bs with
  | nil => cases bs <;> simp [all]
  | cons a rest ih =>
      cases hf : f a with
      | error e => simp [all, hf, List.forall₂_cons_left_iff]
      | ok b =>
          cases hr : all f rest with
          | error e =>
              simp only [all, hf, hr, reduceCtorEq, false_iff]
              rintro (_ | ⟨-, h⟩)
              rw [ih.mpr h] at hr
              cases hr
          | ok cs =>
              cases bs with
              | nil => simp [all, hf, hr]
              | cons c ds => simp [all, hf, hr, ← ih]

/-- An operation has one list of results for the elements of a list. -/
theorem eq_of_forall₂_ok {l : List α} {bs cs : List β}
    (hb : List.Forall₂ (fun a b => f a = .ok b) l bs)
    (hc : List.Forall₂ (fun a c => f a = .ok c) l cs) : bs = cs :=
  Except.ok.inj ((all_eq_ok_iff.mpr hb).symm.trans (all_eq_ok_iff.mpr hc))

/-- A traversal returns exactly when the operation returns on every element. -/
theorem returns_all_iff {l : List α} : Returns (all f l) ↔ ∀ a ∈ l, Returns (f a) := by
  induction l with
  | nil => simp [all]
  | cons a rest ih =>
      cases hf : f a with
      | error e => simp [all, hf]
      | ok b =>
          cases hr : all f rest with
          | error e => simpa [all, hf, hr] using ih
          | ok cs => simpa [all, hf, hr] using ih

/-- A traversal fails with the error of the first element on which the operation fails. -/
theorem all_eq_error_iff {l : List α} {e : ε} :
    all f l = .error e ↔
      ∃ front a back, l = front ++ a :: back ∧ (∀ b ∈ front, Returns (f b)) ∧ f a = .error e := by
  induction l with
  | nil => simp [all]
  | cons a rest ih =>
      rw [exists_split_cons_iff, ← ih, all]
      cases hf : f a with
      | error cause => simp
      | ok b => cases hr : all f rest <;> simp

/-- A traversal whose results are images has the images of the results, and fails as they do. -/
theorem all_map (f : α → Except ε β) (g : α → β → γ) (l : List α) :
    all (fun a => (f a).map (g a)) l = (all f l).map (List.zipWith g l) := by
  induction l with
  | nil => rfl
  | cons a rest ih =>
      rw [all, all, ih]
      cases f a with
      | error e => rfl
      | ok b => cases all f rest <;> rfl

/-- When one computation is all that may fail for the elements, it is all that may fail for the
traversal. -/
theorem all_shared (c : Except ε β) (g : α → β → γ) {l : List α} (h : l ≠ []) :
    all (fun a => c.map (g a)) l = c.map fun b => l.map fun a => g a b := by
  obtain ⟨a, rest, rfl⟩ := List.exists_cons_of_ne_nil h
  cases c with
  | error e => rfl
  | ok b =>
      apply all_eq_ok_iff.mpr
      rw [List.forall₂_map_right_iff, List.forall₂_same]
      intro a _
      rfl

/-- Every result of a traversal is the result for an element. -/
theorem exists_of_mem_all {l : List α} {bs : List β} (h : all f l = .ok bs) {b : β}
    (hb : b ∈ bs) : ∃ a ∈ l, f a = .ok b :=
  exists_of_mem_of_forall₂ (all_eq_ok_iff.mp h) hb

end Traversal

/-! ## Lists with keys -/

namespace Keyed

/-- No key occurs twice. -/
def Distinct (entries : List (κ × α)) : Prop :=
  (entries.map Prod.fst).Nodup

variable [DecidableEq κ] {key : κ} {value : α} {entries : List (κ × α)}

instance : Decidable (Distinct entries) :=
  inferInstanceAs (Decidable (entries.map Prod.fst).Nodup)

/-- What a lookup finds is the value of an entry with the key. -/
theorem mem_of_get? (h : get? key entries = some value) : (key, value) ∈ entries := by
  induction entries with
  | nil => cases h
  | cons entry rest ih =>
      obtain ⟨k, v⟩ := entry
      by_cases hk : k = key
      · subst hk
        simp only [get?, if_true, Option.some.injEq] at h
        simp [h]
      · exact List.mem_cons_of_mem _ (ih (by simpa [get?, hk] using h))

/-- A lookup finds nothing exactly when no entry has the key. -/
theorem get?_eq_none_iff : get? key entries = none ↔ key ∉ entries.map Prod.fst := by
  induction entries with
  | nil => simp [get?]
  | cons entry rest ih =>
      by_cases hk : entry.1 = key
      · simp [get?, hk]
      · simp only [get?, hk, if_false, ih, List.map_cons, List.mem_cons, not_or]
        exact ⟨fun h => ⟨Ne.symm hk, h⟩, And.right⟩

/-- A lookup finds something exactly when an entry has the key. -/
theorem isSome_get?_iff : (get? key entries).isSome ↔ key ∈ entries.map Prod.fst := by
  rw [Option.isSome_iff_ne_none, ne_eq, get?_eq_none_iff, not_not]

/-- Without repeated keys a lookup finds every entry. -/
theorem get?_eq_some_iff (h : Distinct entries) :
    get? key entries = some value ↔ (key, value) ∈ entries := by
  refine ⟨mem_of_get?, fun hm => ?_⟩
  induction entries with
  | nil => cases hm
  | cons entry rest ih =>
      obtain ⟨hnot, hrest⟩ : entry.1 ∉ rest.map Prod.fst ∧ Distinct rest := List.nodup_cons.mp h
      rcases List.mem_cons.mp hm with rfl | hm
      · simp [get?]
      · have hk : entry.1 ≠ key := by
          rintro rfl
          exact hnot (List.mem_map.mpr ⟨_, hm, rfl⟩)
        simpa [get?, hk] using ih hrest hm

/-- Storing under a new key adds an entry at the end. -/
theorem insert_of_notMem (h : key ∉ entries.map Prod.fst) :
    insert key value entries = entries ++ [(key, value)] := by
  induction entries with
  | nil => rfl
  | cons entry rest ih =>
      simp only [List.map_cons, List.mem_cons, not_or] at h
      rw [insert, if_neg (Ne.symm h.1), ih h.2, List.cons_append]

/-- Storing keeps the keys distinct. -/
theorem distinct_insert (h : Distinct entries) : Distinct (insert key value entries) := by
  unfold Distinct
  rw [map_fst_insert]
  split_ifs with hk
  · exact h
  · exact List.nodup_append.mpr ⟨h, by simp, by
      rintro a ha b hb rfl
      exact hk (List.mem_singleton.mp hb ▸ ha)⟩

/-- The values after storing are the new one and old ones. -/
theorem mem_insert {entry : κ × α} (h : entry ∈ insert key value entries) :
    entry = (key, value) ∨ entry ∈ entries := by
  induction entries with
  | nil => exact Or.inl (List.mem_singleton.mp h)
  | cons first rest ih =>
      rw [insert] at h
      split_ifs at h with hk
      · rcases List.mem_cons.mp h with rfl | h
        · exact Or.inl (by rw [← hk])
        · exact Or.inr (List.mem_cons_of_mem _ h)
      · rcases List.mem_cons.mp h with rfl | h
        · exact Or.inr List.mem_cons_self
        · exact (ih h).imp_right (List.mem_cons_of_mem _)

/-- A list of pairs stored one after the other onto entries with distinct keys. -/
theorem distinct_foldl_insert (pairs : List (κ × α)) (h : Distinct entries) :
    Distinct (pairs.foldl (fun es pair => insert pair.1 pair.2 es) entries) := by
  induction pairs generalizing entries with
  | nil => exact h
  | cons pair rest ih => exact ih (distinct_insert h)

/-- No list built by storing holds a key twice. -/
theorem distinct_ofList (pairs : List (κ × α)) : Distinct (ofList pairs) :=
  distinct_foldl_insert pairs List.nodup_nil

/-- The entries of a list built by storing are among the pairs stored. -/
theorem mem_of_mem_ofList {pairs : List (κ × α)} {entry : κ × α} (h : entry ∈ ofList pairs) :
    entry ∈ pairs := by
  suffices ∀ (es : List (κ × α)),
      entry ∈ pairs.foldl (fun es pair => insert pair.1 pair.2 es) es →
        entry ∈ es ∨ entry ∈ pairs from
    (this [] h).resolve_left List.not_mem_nil
  clear h
  induction pairs with
  | nil => exact fun es h => Or.inl h
  | cons pair rest ih =>
      intro es h
      rcases ih _ h with h | h
      · rcases mem_insert h with rfl | h
        · exact Or.inr List.mem_cons_self
        · exact Or.inl h
      · exact Or.inr (List.mem_cons_of_mem _ h)

/-- A key is looked for in the first entries, and then in the others. -/
theorem get?_append (key : κ) (entries others : List (κ × α)) :
    get? key (entries ++ others) = (get? key entries).or (get? key others) := by
  induction entries with
  | nil => rfl
  | cons entry rest ih =>
      rw [List.cons_append, get?, get?, ih]
      split_ifs <;> rfl

/-- Pairs with distinct keys are stored as they are. -/
theorem foldl_insert_of_distinct {entries pairs : List (κ × α)} (h : Distinct (entries ++ pairs)) :
    pairs.foldl (fun es pair => insert pair.1 pair.2 es) entries = entries ++ pairs := by
  induction pairs generalizing entries with
  | nil => simp
  | cons pair rest ih =>
      have happend : entries ++ pair :: rest = (entries ++ [pair]) ++ rest := by simp
      have hnew : pair.1 ∉ entries.map Prod.fst := by
        intro hm
        have hsplit : (entries.map Prod.fst ++ pair.1 :: rest.map Prod.fst).Nodup := by
          simpa [Distinct] using h
        exact (List.nodup_append.mp hsplit).2.2 pair.1 hm pair.1 List.mem_cons_self rfl
      rw [List.foldl_cons, insert_of_notMem hnew, happend]
      exact ih (happend ▸ h)

/-- A list in which no key occurs twice is stored as it is. -/
theorem ofList_of_distinct {pairs : List (κ × α)} (h : Distinct pairs) : ofList pairs = pairs := by
  have hempty : Distinct ([] ++ pairs) := by
    rw [List.nil_append]
    exact h
  rw [ofList, foldl_insert_of_distinct hempty, List.nil_append]

end Keyed

end RestBindings
