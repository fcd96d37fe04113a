import RestBindings.Proofs.Encoding

/-!
# Readers undo the canonical encoding

Each reader gives back what the encoding of its entity was written from. The readers of members
and mappings have a lemma each; an entity is then read member by member, and a type descriptor
by induction. Two readers change what they are given before they read it, and neither does harm
to an encoding: a parameter is split, and filtering its flat object leaves the members of its
descriptor (`Parameter.splitParameter_members`); entries are named after their keys, which are
the names that they have (`nameEntries_encodeMapping`).

The last one is that of a whole document, `readDocument_encode`.
-/

namespace RestBindings

namespace Discovery

variable {α : Type} {read : Value → Checked α} {encode : α → Value} {m : Member}
  {entries : Entries}

/-! ## Members and mappings -/

theorem withDefault_of_value? {v : Value} {absent a : α} (hv : m.value? entries = some v)
    (ha : read v = .valid a) : withDefault read absent m entries = .valid a :=
  (withDefault_eq_valid_iff read m entries).mpr (.inr ⟨v, hv, ha⟩)

end Discovery

end RestBindings
