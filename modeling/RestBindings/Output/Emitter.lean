import RestBindings.Error

/-!
# Emitting units

An emitter stores one unit at a time under its path.  A path is taken once only; a second unit at
the same path is refused before anything is stored.
-/

namespace RestBindings.Output

/-- Storing the text of a unit at a path: the location, or an error, and the store afterwards. -/
abbrev Store (σ : Type) := (path text : String) → σ → Except Error String × σ

/-- The progress of an emitter. -/
structure Progress (σ : Type) where
  /-- The paths so far, in order. -/
  emitted : List String
  store : σ

namespace Progress

/-- An emitter that has stored nothing yet. -/
def start {σ : Type} (store : σ) : Progress σ :=
  ⟨[], store⟩

/-- Stores one unit. -/
def emit {σ : Type} (store : Store σ) (path text : String) (p : Progress σ) :
    Except Error String × Progress σ :=
  if path ∈ p.emitted then (.error (.failure (.collision path)), p)
  else match store path text p.store with
    | (.ok location, s) => (.ok location, ⟨p.emitted ++ [path], s⟩)
    | (.error e, s) => (.error e, ⟨p.emitted, s⟩)

end Progress

/-- A unit to emit: where it goes and its source, if it can be built. -/
structure SourceUnit where
  path : String
  source : Except Error String

/-- Emits units one after the other.  The first that cannot be built or stored ends the run. -/
def emitAll {σ : Type} (store : Store σ) : List SourceUnit → Progress σ →
    Except Error (List String) × Progress σ
  | [], p => (.ok [], p)
  | unit :: rest, p =>
    match unit.source with
    | .error e => (.error e, p)
    | .ok text =>
      match p.emit store unit.path text with
      | (.error e, p) => (.error e, p)
      | (.ok location, p) =>
        match emitAll store rest p with
        | (.ok locations, p) => (.ok (location :: locations), p)
        | (.error e, p) => (.error e, p)

end RestBindings.Output
