import RestBindings.Binding.Generation
import RestBindings.Config.Job
import RestBindings.Discovery.Loading
import RestBindings.Output.Directory

/-!
# Running a job

A job loads its document, then its class map, and writes the bindings below its output directory.
The first error ends it; what was written before stays.
-/

namespace RestBindings

open Binding Config Discovery

/-- The class map of a job, empty if it names none. -/
def loadClassMap (tree : Files.Tree) (job : Job) : Except Error ClassMap :=
  match job.classMap.filter (· != "") with
  | none => .ok []
  | some path =>
    match tree.readText path with
    | .ok text => .ok (ClassMap.ofLines (Text.lines text))
    | .error e => .error (.file e)

variable [Http.Client] [Interpreter]

/-- The document of a job and the options for its bindings. -/
def prepare (sources : Sources) (job : Job) : Except Error (Document × Options) := do
  let document ← Discovery.load sources job.source
  let classes ← loadClassMap sources.tree job
  return (document, ⟨TypeTable.standard, job.shapes, classes⟩)

/-- Runs a job: the locations of the units written, and the file tree afterwards. -/
def run (sources : Sources) (job : Job) : Except Error (List String) × Files.Tree :=
  match prepare sources job with
  | .error e => (.error e, sources.tree)
  | .ok (document, options) =>
    let (locations, progress) :=
      generate (Output.Directory.store job.output) options document (.start sources.tree)
    (locations, progress.store)

end RestBindings
