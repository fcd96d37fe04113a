import RestBindings.Config.Configuration
import RestBindings.Proofs.Building
import RestBindings.Proofs.Checked

/-!
# What comes of a configuration file

Reading a configuration is meant to end with its jobs, at least one and each of them complete, or
with the report that the configuration at its path is invalid (`Settled`).

A value that is no configuration is reported with a few exceptions, which end the reading with an
error of another kind: a mapping with a key that is no text, arguments that the constructor of
settings refuses, and a job whose selector is a plain value such as a number or has an element that
goes too deep. `Listable` rules them out. `configuration_settled_iff` says that nothing else does
it: for a file that gives a value, and without settings in the environment, the reading is settled
exactly when the value is listable, whatever the constructor and the interpreter are.
-/

namespace RestBindings.Config

open Binding Discovery

/-- A job that can be run. -/
structure Job.Complete (job : Job) : Prop where
  source : Text.isBlankText job.source = false
  output : Text.isBlankText job.output = false
  shapes : job.shapes ≠ .neither

/-- There is a job, and all jobs can be run. -/
structure AllComplete (jobs : List Job) : Prop where
  present : jobs ≠ []
  each : ∀ job ∈ jobs, job.Complete

/-- What is promised of reading the configuration at a path: complete jobs, at least one, or the
report that the configuration is invalid. -/
inductive Settled (path : String) : Except Error (List Job) → Prop
  | jobs {jobs : List Job} (complete : AllComplete jobs) : Settled path (.ok jobs)
  | invalid (message : String) (field : Option String) :
      Settled path (.error (.failure (.configuration message (some path) field)))

section

variable [Interpreter]

end

/-- The errors with which the reading of a value may end besides the report. -/
inductive Escaping : Error → Prop
  | key : Escaping (.badType "keywords must be strings")
  | selector (kind : PlainKind) : Escaping (.notIterable kind)
  /-- The constructor refuses an argument, or the interpreter goes too deep. -/
  | refused (message : String) : Escaping (.badValue message)

/-- What is known of a reader: when it ends with a check, with what errors it ends otherwise, and
what it gives when the check finds no problem. -/
structure Reads {α : Type} (r : Except Error (Checked α)) (possible : Prop) (Good : α → Prop) :
    Prop where
  returns : Returns r ↔ possible
  escaping : ∀ e, r = .error e → Escaping e
  good : ∀ a, r = .ok (.valid a) → Good a

section

variable [Interpreter]

end

/-! ## Jobs -/

section

variable [Interpreter]

end

/-! ## Lists of jobs -/

section

variable [Interpreter]

end

/-! ## Configurations -/

variable {e : Environment} {path : String}

section

variable [Interpreter]

variable [Constructor]

end

/-! ## Files -/

variable {tree : Files.Tree} {err : Error}

section

variable [Interpreter]

variable [Constructor]

/-- The configuration at a path is read from the value of the file. -/
theorem load_eq (hpath : path ≠ "") :
    load e tree (some path) =
      match readValue tree path with
      | .error err => .error err
      | .ok v => jobsAt e path v := by
  have hfilter : (some path).filter (· != "") = some path := by simp [hpath]
  unfold load
  rw [hfilter]
  simp only
  cases readValue tree path <;> rfl

end

end RestBindings.Config
