import RestBindings.CommandLine.Execution
import RestBindings.Proofs.Generation
import RestBindings.Proofs.Markup
import RestBindings.Proofs.Naming

/-!
# Jobs one after the other

A batch runs the jobs of its configuration in order, each on the file tree that the one before it
has left, and ends with the first job that fails. It is meant to succeed when all jobs do. But what
is told about a job is a message with markup in which its source and its output stand as they are
written, and a message that the console refuses ends the batch as well.

* `Completes` says of a list of jobs that each of them succeeds where its turn comes: the locations
  of the units of each, and the tree behind the last. `Reported` says that the console shows all
  that is told about them. `Ends` lists the three ways in which a job ends a batch, and `Fails` says
  which job is the first that does, and what has happened up to there.
* Every list of jobs completes and is reported, or fails (`completes_or_fails`). What the batch
  prints and leaves is read off in both cases (`runJobs_of_completes`, `Fails.runJobs_eq`); in the
  second it is the same whatever jobs follow the one that fails, since none of them is looked at.
* `length_locations_of_run`: a job that succeeds has as many locations as its document has schemas
  and resources, so a message of success counts the units of the document.
* `executeArgs_batch` puts these together for every way to ask for a batch and every console.
  Jobs whose texts have no brackets are reported on the console of the program itself
  (`reports_of_plain`).
-/

namespace RestBindings

open Binding Config Discovery Output

/-! ## One job -/

/-- The units of a document, one for each schema and resource. -/
def Discovery.Document.unitCount (d : Document) : Nat :=
  d.schemas.length + d.resources.length

/-- A document has as many units as its schemas and resources are. -/
theorem Binding.length_unitsIn (options : Options) (package : String) (d : Document) :
    (unitsIn options package d).length = d.unitCount := by
  simp [unitsIn, Document.unitCount]

/-- A run that returns has one location for every unit of its document. -/
theorem Binding.length_of_generate {σ : Type} {store : Store σ} {options : Options} {d : Document}
    {p q : Progress σ} {locations : List String}
    (h : generate store options d p = (.ok locations, q)) : locations.length = d.unitCount := by
  obtain ⟨⟨package, hp⟩, texts, hemits⟩ := generate_eq_ok_iff.mp h
  have hunits : unitsOf options d = unitsIn options package d := by
    unfold unitsOf
    rw [hp]
  rw [hemits.length_locations, hunits, length_unitsIn]

section

variable [Http.Client] [Interpreter]

/-- A job is prepared from the document that it loads. -/
theorem load_of_prepare {sources : Sources} {job : Job} {d : Document} {options : Options}
    (h : prepare sources job = .ok (d, options)) :
    Discovery.load sources job.source = .ok d := by
  unfold prepare at h
  cases hl : Discovery.load sources job.source with
  | error e =>
      rw [hl] at h
      cases h
  | ok loaded =>
      rw [hl] at h
      cases hc : loadClassMap sources.tree job with
      | error e =>
          rw [hc] at h
          cases h
      | ok classes =>
          rw [hc] at h
          cases h
          rfl

/-- **A job that succeeds has written one unit for each schema and resource** of the document that
it loads. -/
theorem length_locations_of_run {sources : Sources} {job : Job} {locations : List String}
    {tree : Files.Tree} (h : run sources job = (.ok locations, tree)) :
    ∃ d, Discovery.load sources job.source = .ok d ∧ locations.length = d.unitCount := by
  unfold run at h
  cases hp : prepare sources job with
  | error e =>
      rw [hp] at h
      cases h
  | ok prepared =>
      obtain ⟨d, options⟩ := prepared
      refine ⟨d, load_of_prepare hp, ?_⟩
      rw [hp] at h
      obtain ⟨hlocations, -⟩ := Prod.mk.inj h
      exact length_of_generate (Prod.ext hlocations rfl)

end

namespace CommandLine

/-! ## What is told about a job -/

section

variable [Console]

/-- A message is told when the console shows it. -/
theorem tell_eq_ok_iff {message text : String} :
    Console.tell message = .ok text ↔ Console.render message = .ok text := by
  unfold Console.tell
  cases Console.render message <;> simp [Except.mapError]

/-- A message that the console refuses ends what it is about. -/
theorem tell_eq_error_iff {message : String} {e : Error} :
    Console.tell message = .error e ↔
      ∃ reason, Console.render message = .error reason ∧ e = .badValue reason := by
  unfold Console.tell
  cases Console.render message <;> simp [Except.mapError, eq_comm]

/-- The console shows all that is told about a job that succeeds; the text is what is shown in the
end. -/
structure Reports (job : Job) (locations : List String) (text : String) : Prop where
  announced : ∃ shown, Console.render (announcement job) = .ok shown
  completed : ∃ shown, Console.render (completion job) = .ok shown
  counted : Console.render (successMessage job locations) = .ok text

/-- The console refuses a message about a job that has run. -/
def RefusesReport (job : Job) (locations : List String) (reason : String) : Prop :=
  Console.render (completion job) = .error reason ∨
    (∃ shown, Console.render (completion job) = .ok shown) ∧
      Console.render (successMessage job locations) = .error reason

/-- A report has a text when the console shows both of its messages. -/
theorem report_eq_ok_iff {job : Job} {locations : List String} {text : String} :
    report job locations = .ok text ↔ (∃ shown, Console.render (completion job) = .ok shown) ∧
      Console.render (successMessage job locations) = .ok text := by
  unfold report Console.tell
  cases Console.render (completion job) with
  | error reason => simp [Except.mapError, bind, Except.bind]
  | ok shown =>
      cases Console.render (successMessage job locations) <;>
        simp [Except.mapError, bind, Except.bind]

/-- A report has no text when the console refuses one of its messages. -/
theorem report_eq_error_iff {job : Job} {locations : List String} {e : Error} :
    report job locations = .error e ↔
      ∃ reason, RefusesReport job locations reason ∧ e = .badValue reason := by
  unfold report Console.tell RefusesReport
  cases Console.render (completion job) with
  | error reason => simp [Except.mapError, bind, Except.bind, eq_comm]
  | ok shown =>
      cases Console.render (successMessage job locations) <;>
        simp [Except.mapError, bind, Except.bind, eq_comm]

/-- The console shows all that is told about jobs that succeed: the text that is shown in the end
about each. -/
inductive Reported : List Job → List (List String) → List String → Prop
  | nil : Reported [] [] []
  | cons {job : Job} {rest : List Job} {locations : List String} {others : List (List String)}
      {text : String} {texts : List String} (first : Reports job locations text)
      (next : Reported rest others texts) :
      Reported (job :: rest) (locations :: others) (text :: texts)

/-- Every job that is reported has its text. -/
theorem Reported.length_texts {jobs : List Job} {done : List (List String)} {texts : List String}
    (h : Reported jobs done texts) : texts.length = jobs.length := by
  induction h with
  | nil => rfl
  | cons _ _ ih => rw [List.length_cons, List.length_cons, ih]

end

section

variable [Console] [Http.Client] [Interpreter]

/-- How a job ends a batch. -/
inductive Ends (sources : Sources) (job : Job) : Error → Files.Tree → Prop
  /-- Its announcement is refused, before anything is read or written. -/
  | unannounced {reason : String} (refused : Console.render (announcement job) = .error reason) :
      Ends sources job (.badValue reason) sources.tree
  /-- Its run fails. -/
  | failed {shown : String} {error : Error} {tree : Files.Tree}
      (announced : Console.render (announcement job) = .ok shown)
      (ran : run sources job = (.error error, tree)) : Ends sources job error tree
  /-- It has run, and what is told about it then is refused. -/
  | unreported {shown reason : String} {locations : List String} {tree : Files.Tree}
      (announced : Console.render (announcement job) = .ok shown)
      (ran : run sources job = (.ok locations, tree))
      (refused : RefusesReport job locations reason) : Ends sources job (.badValue reason) tree

variable {sources : Sources} {job : Job} {tree : Files.Tree}

/-- The run of a job that is announced decides about it, and then its report. -/
theorem runJob_of_announced {shown : String}
    (h : Console.render (announcement job) = .ok shown) :
    runJob sources job = match run sources job with
      | (.error e, tree) => (.error e, tree)
      | (.ok locations, tree) => (report job locations, tree) := by
  rcases hrun : run sources job with ⟨_ | _, _⟩ <;>
    simp only [runJob, tell_eq_ok_iff.mpr h, hrun]

/-- A job succeeds when it is run and reported. -/
theorem runJob_eq_ok_iff {text : String} : runJob sources job = (.ok text, tree) ↔
    ∃ locations, run sources job = (.ok locations, tree) ∧ Reports job locations text := by
  cases hannounced : Console.render (announcement job) with
  | error reason =>
      rw [runJob, tell_eq_error_iff.mpr ⟨reason, hannounced, rfl⟩]
      refine iff_of_false nofun ?_
      rintro ⟨locations, -, ⟨shown, hshown⟩, -, -⟩
      rw [hannounced] at hshown
      cases hshown
  | ok shown =>
      rw [runJob_of_announced hannounced]
      rcases run sources job with ⟨e | locations, left⟩
      · simp
      · constructor
        · intro h
          obtain ⟨hreport, rfl⟩ := Prod.mk.inj h
          obtain ⟨hcompleted, hcounted⟩ := report_eq_ok_iff.mp hreport
          exact ⟨locations, rfl, ⟨shown, hannounced⟩, hcompleted, hcounted⟩
        · rintro ⟨locations, ⟨⟩, -, hcompleted, hcounted⟩
          simp only [report_eq_ok_iff.mpr ⟨hcompleted, hcounted⟩]

/-- A job that does not succeed ends the batch. -/
theorem ends_of_runJob {e : Error} (h : runJob sources job = (.error e, tree)) :
    Ends sources job e tree := by
  cases hannounced : Console.render (announcement job) with
  | error reason =>
      rw [runJob, tell_eq_error_iff.mpr ⟨reason, hannounced, rfl⟩] at h
      cases h
      exact .unannounced hannounced
  | ok shown =>
      rw [runJob_of_announced hannounced] at h
      rcases hran : run sources job with ⟨cause | locations, left⟩ <;> rw [hran] at h
      · cases h
        exact .failed hannounced hran
      · obtain ⟨hreport, rfl⟩ := Prod.mk.inj h
        obtain ⟨reason, hrefused, rfl⟩ := report_eq_error_iff.mp hreport
        exact .unreported hannounced hran hrefused

/-- A job that ends the batch does so with its error. -/
theorem Ends.runJob_eq {e : Error} (h : Ends sources job e tree) :
    runJob sources job = (.error e, tree) := by
  cases h with
  | unannounced refused => rw [runJob, tell_eq_error_iff.mpr ⟨_, refused, rfl⟩]
  | failed announced ran => rw [runJob_of_announced announced, ran]
  | unreported announced ran refused =>
      rw [runJob_of_announced announced, ran]
      simp only [report_eq_error_iff.mpr ⟨_, refused, rfl⟩]

/-! ## Many jobs -/

/-- All jobs of a list succeed, each on the tree that the one before it has left: the locations of
the units of each, and the tree behind the last. -/
inductive Completes : Sources → List Job → List (List String) → Files.Tree → Prop
  | nil (sources : Sources) : Completes sources [] [] sources.tree
  | cons {sources : Sources} {job : Job} {rest : List Job} {locations : List String}
      {others : List (List String)} {tree last : Files.Tree}
      (first : run sources job = (.ok locations, tree))
      (next : Completes { sources with tree } rest others last) :
      Completes sources (job :: rest) (locations :: others) last

/-- The job at an index is the first that ends the batch: those in front of it have completed and
are reported, and it ends with an error on the tree that they have left. -/
structure Fails (sources : Sources) (jobs : List Job) (k : Nat) (done : List (List String))
    (texts : List String) (error : Error) (last : Files.Tree) : Prop where
  reported : Reported (jobs.take k) done texts
  before : ∃ between, Completes sources (jobs.take k) done between ∧
    ∃ job, jobs[k]? = some job ∧ Ends { sources with tree := between } job error last

variable {jobs : List Job} {done : List (List String)} {texts : List String}
  {between last : Files.Tree}

/-- The first job of a batch decides whether the others are run. -/
theorem runJobs_cons (sources : Sources) (messages : List String) (job : Job)
    (rest : List Job) :
    runJobs sources messages (job :: rest) =
      match runJob sources job with
      | (.error e, tree) => .failed messages e tree
      | (.ok text, tree) => runJobs { sources with tree } (messages ++ [text]) rest := by
  -- the equation that `rw [runJobs]` would use unfolds the run of the job as well
  exact rfl

/-- Jobs that complete and are reported are followed by the others, on the tree that they have
left. -/
theorem runJobs_append (h : Completes sources jobs done between) (hr : Reported jobs done texts)
    (messages : List String) (others : List Job) :
    runJobs sources messages (jobs ++ others) =
      runJobs { sources with tree := between } (messages ++ texts) others := by
  induction h generalizing messages texts with
  | nil sources =>
      cases hr
      simp
  | cons first next ih =>
      cases hr with
      | cons hfirst hnext =>
          rw [List.cons_append, runJobs_cons, runJob_eq_ok_iff.mpr ⟨_, first, hfirst⟩]
          simp [ih hnext]

/-- Jobs that complete and are reported succeed with one text each. -/
theorem runJobs_of_completes (h : Completes sources jobs done last)
    (hr : Reported jobs done texts) (messages : List String) :
    runJobs sources messages jobs = ⟨0, messages ++ texts, last⟩ := by
  have happend := runJobs_append h hr messages []
  rw [List.append_nil] at happend
  rw [happend]
  rfl

/-- A job that ends the batch does so whatever follows it. -/
theorem Fails.runJobs_eq {k : Nat} {error : Error}
    (h : Fails sources jobs k done texts error last) (messages : List String)
    (others : List Job) :
    runJobs sources messages (jobs.take (k + 1) ++ others) =
      ⟨1, messages ++ texts ++ Outcome.errorTexts error, last⟩ := by
  obtain ⟨between, hbefore, job, hjob, hends⟩ := h.before
  have hsplit : jobs.take (k + 1) ++ others = jobs.take k ++ (job :: others) := by
    rw [List.take_add_one, hjob, List.append_assoc]
    rfl
  rw [hsplit, runJobs_append hbefore h.reported, runJobs_cons, hends.runJob_eq]
  rfl

/-- **A list of jobs completes and is reported, or one of them is the first that ends it.** -/
theorem completes_or_fails (sources : Sources) (jobs : List Job) :
    (∃ done texts last, Completes sources jobs done last ∧ Reported jobs done texts) ∨
      ∃ k done texts error last, Fails sources jobs k done texts error last := by
  induction jobs generalizing sources with
  | nil => exact .inl ⟨[], [], sources.tree, .nil sources, .nil⟩
  | cons job rest ih =>
      cases hrun : runJob sources job with
      | mk result tree =>
          cases result with
          | error e =>
              exact .inr ⟨0, [], [], e, tree,
                ⟨.nil, sources.tree, .nil sources, job, rfl, ends_of_runJob hrun⟩⟩
          | ok text =>
              obtain ⟨locations, hran, hreports⟩ := runJob_eq_ok_iff.mp hrun
              rcases ih { sources with tree } with
                ⟨others, texts, last, hrest, hreported⟩ | ⟨k, others, texts, e, last, hk⟩
              · exact .inl ⟨locations :: others, text :: texts, last, .cons hran hrest,
                  .cons hreports hreported⟩
              · obtain ⟨between, hbefore, failed, hfailed⟩ := hk.before
                exact .inr ⟨k + 1, locations :: others, text :: texts, e, last,
                  .cons hreports hk.reported, between, .cons hran hbefore, failed, hfailed⟩

variable [Constructor]

/-- A batch with a valid configuration runs its jobs. -/
theorem executeArgs_eq_runJobs {e : Environment} {args : List String} {config : Option String}
    (hargs : Command.ofArgs args = some (.batch config))
    (hjobs : Config.load e sources.tree config = .ok jobs) :
    executeArgs e sources args = runJobs sources [] jobs := by
  have hof : jobsOf e sources.tree (.batch config) = .ok jobs := hjobs
  unfold executeArgs
  rw [hargs]
  unfold execute
  simp only [hof]

/-- **A batch is its jobs one after the other, up to the first that fails or that the console
cannot report.** For every configuration that gives jobs, every file tree and every console, the
program exits with 0 exactly when all jobs complete, each on the tree that the one before it has
left, and the console shows all that is told about them. Then it prints one text per job, in order,
and leaves the tree of the last one. Otherwise it exits with 1: there is a first job `k` that ends
the batch, the texts are those of the jobs in front of it and then the error, as far as the console
shows it, and the tree is the one that job `k` has left; with any other jobs behind `k` the outcome
is the same. A message of success counts the schemas and resources of the document that its job has
loaded. -/
theorem executeArgs_batch {e : Environment} {sources : Sources} {args : List String}
    {config : Option String} {jobs : List Job}
    (hargs : Command.ofArgs args = some (.batch config))
    (hjobs : Config.load e sources.tree config = .ok jobs) :
    ((executeArgs e sources args).exitCode = 0 ↔
      ∃ done texts last, Completes sources jobs done last ∧ Reported jobs done texts) ∧
    (∀ done texts last, Completes sources jobs done last → Reported jobs done texts →
      executeArgs e sources args = ⟨0, texts, last⟩) ∧
    ((executeArgs e sources args).exitCode ≠ 0 →
      ∃ k done texts error last, Fails sources jobs k done texts error last ∧
        executeArgs e sources args = ⟨1, texts ++ Outcome.errorTexts error, last⟩ ∧
        ∀ others, runJobs sources [] (jobs.take (k + 1) ++ others) =
          executeArgs e sources args) ∧
    ∀ tree job locations left, run { sources with tree } job = (.ok locations, left) →
      ∃ d, Discovery.load { sources with tree } job.source = .ok d ∧
        successMessage job locations =
          Markup.styled "green" "Successfully generated code" ++
            (" (" ++ toString d.unitCount ++ " files) in " ++ job.output) := by
  rw [executeArgs_eq_runJobs hargs hjobs]
  have hcompleted : ∀ done texts last, Completes sources jobs done last →
      Reported jobs done texts → runJobs sources [] jobs = ⟨0, texts, last⟩ :=
    fun _ _ _ h hr => runJobs_of_completes h hr []
  have hfailed : ∀ k done texts error last, Fails sources jobs k done texts error last →
      ∀ others, runJobs sources [] (jobs.take (k + 1) ++ others) =
        ⟨1, texts ++ Outcome.errorTexts error, last⟩ :=
    fun _ _ _ _ _ h others => h.runJobs_eq [] others
  have hended : ∀ k done texts error last, Fails sources jobs k done texts error last →
      runJobs sources [] jobs = ⟨1, texts ++ Outcome.errorTexts error, last⟩ := by
    intro k done texts error last h
    rw [← hfailed k done texts error last h (jobs.drop (k + 1)), List.take_append_drop]
  refine ⟨⟨fun hzero => ?_, ?_⟩, hcompleted, fun hnonzero => ?_, ?_⟩
  · refine (completes_or_fails sources jobs).resolve_right ?_
    rintro ⟨k, done, texts, error, last, h⟩
    rw [hended k done texts error last h] at hzero
    cases hzero
  · rintro ⟨done, texts, last, h, hr⟩
    rw [hcompleted done texts last h hr]
  · rcases completes_or_fails sources jobs with
      ⟨done, texts, last, h, hr⟩ | ⟨k, done, texts, error, last, h⟩
    · rw [hcompleted done texts last h hr] at hnonzero
      exact absurd rfl hnonzero
    · refine ⟨k, done, texts, error, last, h, hended k done texts error last h, fun others => ?_⟩
      rw [hfailed k done texts error last h others, hended k done texts error last h]
  · intro tree job locations left h
    obtain ⟨d, hd, hlength⟩ := length_locations_of_run h
    refine ⟨d, hd, ?_⟩
    unfold successMessage
    rw [hlength]

end

/-- A working directory with a document and a configuration of two jobs, of which the second names
a document that is missing. -/
def batchSources : Sources where
  tree := ((Files.Tree.ofWorkingDirectory ["work"]).withFile ["work", "c.json"]
      ("\x7b\"documents\":[\x7b\"source\":\"disks\",\"output\":\"out\"\x7d," ++
        "\x7b\"source\":\"zones\",\"output\":\"out\"\x7d]\x7d").toUTF8).withFile ["work", "disks"]
      "\x7b\"baseUrl\":\"http://api/\",\"schemas\":\x7b\"Disk\":\x7b\x7d\x7d\x7d".toUTF8
  web := []
  followsRedirects := true

/-- The jobs of this configuration. -/
def batchJobs : List Job :=
  [⟨"disks", "out", none, .both⟩, ⟨"zones", "out", none, .both⟩]

/-- The batch of this configuration completes its first job and ends with the second. -/
theorem executeArgs_batchSources :
    Command.ofArgs ["batch", "-c", "c.json"] = some (.batch (some "c.json")) ∧
      Config.load [] batchSources.tree (some "c.json") = .ok batchJobs ∧
      ∃ done error last,
        Fails batchSources batchJobs 1 done ["Successfully generated code (1 files) in out"]
          error last ∧
        executeArgs [] batchSources ["batch", "-c", "c.json"] =
          ⟨1, "Successfully generated code (1 files) in out" :: Outcome.errorTexts error,
            last⟩ := by
  have hargs : Command.ofArgs ["batch", "-c", "c.json"] = some (.batch (some "c.json")) := rfl
  have hjobs : Config.load [] batchSources.tree (some "c.json") = .ok batchJobs := by
    decide +kernel
  obtain ⟨hcode, hmessages⟩ : (runJobs batchSources [] batchJobs).exitCode = 1 ∧
      (runJobs batchSources [] batchJobs).messages =
        ["Successfully generated code (1 files) in out"] ++
          ["Error: Failed to load discovery document from 'zones': " ++
            "[Errno 2] No such file or directory: 'zones'"] := by decide +kernel
  obtain ⟨-, -, hfailed, -⟩ := executeArgs_batch hargs hjobs
  rw [executeArgs_eq_runJobs hargs hjobs] at hfailed ⊢
  obtain ⟨k, done, texts, error, last, hfails, heq, -⟩ := hfailed (by rw [hcode]; decide)
  rw [heq] at hmessages
  -- one text stands for one job in front of the one that ends the batch
  obtain ⟨hk, htexts⟩ : k = 1 ∧ texts = ["Successfully generated code (1 files) in out"] := by
    obtain ⟨between, -, job, hjob, -⟩ := hfails.before
    have hlt : k < 2 := (List.getElem?_eq_some_iff.mp hjob).1
    have hlength : texts.length = k := by
      rw [hfails.reported.length_texts, List.length_take_of_le (Nat.le_of_lt hlt)]
    have hone : (Outcome.errorTexts error).length ≤ 1 := by
      unfold Outcome.errorTexts
      cases (Console.tell (Outcome.errorMessage error)).toOption <;> simp
    have htwo := congrArg List.length hmessages
    simp only [List.length_append, List.length_singleton] at htwo
    have hk : k = 1 := by omega
    exact ⟨hk, (List.append_inj hmessages (by rw [hlength, hk]; rfl)).1⟩
  subst hk htexts
  rw [heq]
  exact ⟨hargs, hjobs, done, error, last, hfails, rfl⟩

/-- A working directory with a document and a configuration of one job, whose output is a path with
brackets. -/
def bracketSources : Sources where
  tree := ((Files.Tree.ofWorkingDirectory ["work"]).withFile ["work", "c.json"]
      "\x7b\"documents\":[\x7b\"source\":\"disks\",\"output\":\"out[/]\"\x7d]\x7d".toUTF8).withFile
    ["work", "disks"]
    "\x7b\"baseUrl\":\"http://api/\",\"schemas\":\x7b\"Disk\":\x7b\x7d\x7d\x7d".toUTF8
  web := []
  followsRedirects := true

/-- The only job of this configuration. -/
def bracketJob : Job := ⟨"disks", "out[/]", none, .both⟩

/-- The job completes, and the batch exits with 1: the message of its success closes a style where
none is open. -/
theorem executeArgs_bracketSources :
    Config.load [] bracketSources.tree (some "c.json") = .ok [bracketJob] ∧
      (∃ last, Completes bracketSources [bracketJob] [["out[/]/api/model/Disk.java"]] last) ∧
      (executeArgs [] bracketSources ["batch", "-c", "c.json"]).exitCode = 1 := by
  have hjobs : Config.load [] bracketSources.tree (some "c.json") = .ok [bracketJob] := by
    decide +kernel
  have hran : (run bracketSources bracketJob).1 = .ok ["out[/]/api/model/Disk.java"] := by
    decide +kernel
  have hannounced : Console.render (announcement bracketJob) =
      .ok "Generating code for disks in out..." := by
    decide +kernel
  have hcompleted : Console.render (completion bracketJob) =
      .ok "Code generation completed for disks!" := by
    decide +kernel
  have hrefused : Console.render (successMessage bracketJob ["out[/]/api/model/Disk.java"]) =
      .error "closing tag '[/]' at position 59 has nothing to close" := by
    decide +kernel
  rcases hrun : run bracketSources bracketJob with ⟨result, tree⟩
  rw [hrun] at hran
  subst hran
  refine ⟨hjobs, ⟨tree, .cons hrun (.nil _)⟩, ?_⟩
  have hends := Ends.unreported hannounced hrun (.inr ⟨⟨_, hcompleted⟩, hrefused⟩)
  rw [executeArgs_eq_runJobs rfl hjobs, runJobs_cons, hends.runJob_eq]
  rfl

/-! ## Texts without brackets -/

/-- A number has no bracket. -/
theorem bracket_notMem_toDigits (n : Nat) : '[' ∉ Nat.toDigits 10 n := by
  intro hmem
  have hdigit := Nat.isDigit_of_mem_toDigits (by decide) (by decide) hmem
  revert hdigit
  decide

/-- A description without brackets is shown. -/
theorem render_described {text : String} (h : '[' ∉ text.toList) :
    Console.render (described text) = .ok text := by
  have hstyle : Markup.IsStyle "progress.description".toList :=
    ⟨⟨_, _, rfl, by decide⟩, Unicode.forall_of_all (by decide), by decide⟩
  exact Markup.render_styled hstyle h

/-- **A job whose texts have no brackets is reported** on the console of the program itself, and the
text about it has the number of its files and its output. -/
theorem reports_of_plain {job : Job} (hsource : '[' ∉ job.source.toList)
    (houtput : '[' ∉ job.output.toList) (locations : List String) :
    Reports job locations ("Successfully generated code" ++
      (" (" ++ toString locations.length ++ " files) in " ++ job.output)) where
  announced := by
    refine ⟨_, render_described ?_⟩
    simp [hsource, houtput]
  completed := by
    refine ⟨_, render_described ?_⟩
    simp [hsource]
  counted := by
    have hstyle : Markup.IsStyle "green".toList :=
      ⟨⟨_, _, rfl, by decide⟩, Unicode.forall_of_all (by decide), by decide⟩
    refine Markup.render_emphasised hstyle (Unicode.forall_of_all (by decide)) ?_
    simp [houtput, bracket_notMem_toDigits]

end CommandLine

end RestBindings
