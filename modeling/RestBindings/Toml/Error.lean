/-!
# Errors of the TOML reader
-/

namespace RestBindings.Toml

/-- Why a text is refused. -/
inductive Error
  /-- The notation is violated, or a table is defined in two ways. -/
  | malformed
  /-- An integer has more digits than are converted. -/
  | longInteger (digits : Nat)
  deriving DecidableEq, Repr

end RestBindings.Toml
