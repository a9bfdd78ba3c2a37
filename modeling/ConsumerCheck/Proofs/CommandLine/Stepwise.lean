import ConsumerCheck.CommandLine.Run
import ConsumerCheck.Proofs.History
import Mathlib.Data.List.Forall2

/-!
# One command for all steps, or one command for each

The command `verify` makes all steps in one process. The commands `imports`, `build` and `test` make one step
each, every one in a process that loads the configuration anew. Of a process only its exit code, the files
after it and the commands that it started are seen from outside.

* `chain` — actions one after the other, up to the first that fails;
* `Effect` — what is seen of an action or of a process;
* `inTurn` — command lines one after the other, up to the first that fails;
* `SameConfiguration` — no configuration file has changed.

Principal results: `verify_chain` — a verification is the chain of its steps; `inTurn_chain` — a chain of
steps in one process is the same work as one process for each; `run_verify_inTurn` — the command `verify` is
the three other commands one after the other.
-/

namespace ConsumerCheck

variable {σ α : Type}

/-! ## Chains -/

/-- A step as an action that succeeds or fails. -/
def succeeding (f : World σ → Except Failure α × World σ) (w : World σ) : Bool × World σ :=
  ((f w).1.isOk, (f w).2)

theorem Forgetful.succeeding {f : World σ → Except Failure α × World σ} (hf : Forgetful f) :
    Forgetful (succeeding f) := by
  intro w journal trace
  simp [ConsumerCheck.succeeding, hf w journal trace]

/-- Actions one after the other, up to the first that fails. -/
def chain : List (World σ → Bool × World σ) → World σ → Bool × World σ
  | [], w => (true, w)
  | f :: fs, w => if (f w).1 then chain fs (f w).2 else f w

theorem chain_forgetful {steps : List (World σ → Bool × World σ)} (h : ∀ f ∈ steps, Forgetful f) :
    Forgetful (chain steps) := by
  intro w journal trace
  induction steps generalizing w with
  | nil => rfl
  | cons f steps ih =>
    obtain ⟨hf, hsteps⟩ := List.forall_mem_cons.1 h
    rw [chain, chain, hf w journal trace]
    split
    · exact ih hsteps _
    · rfl

/-- What is seen of a piece of work from outside. -/
structure Effect where
  success : Bool
  files : FileSystem
  /-- The commands that were started, in order. -/
  trace : List Command

namespace Effect

/-- What is seen of an action. -/
def ofAction (done : Bool × World σ) : Effect := ⟨done.1, done.2.files, done.2.trace⟩

/-- What is seen of an action, behind commands that were started before it. -/
def behind (e : Effect) (trace : List Command) : Effect := { e with trace := trace ++ e.trace }

end Effect

theorem Forgetful.effect {f : World σ → Bool × World σ} (hf : Forgetful f) (w : World σ) :
    Effect.ofAction (f w) = (Effect.ofAction (f (.start w.files w.runner))).behind w.trace := by
  obtain ⟨hsuccess, hfiles, htrace⟩ := hf.fresh w
  simp only [Effect.ofAction, Effect.behind, hsuccess, hfiles, htrace]

/-! ## The steps of a verification -/

section Steps

variable (c : Context) (r : Runner σ)

/-- The imports step. -/
def importsStep (o : VerifyOptions) : World σ → Bool × World σ :=
  succeeding (importArtifacts c o.imports o.settings)

/-- The build step. -/
def buildStep (o : VerifyOptions) : World σ → Bool × World σ :=
  succeeding (buildExample c o.build o.settings r)

/-- The test step. -/
def smokeStep (o : VerifyOptions) : World σ → Bool × World σ :=
  succeeding (SmokeTest.run c o.test o.settings r)

/-- The steps after the settings. -/
def steps : List (VerifyOptions → World σ → Bool × World σ) :=
  [importsStep c, buildStep c r, smokeStep c r]

theorem steps_forgetful (o : VerifyOptions) : ∀ f ∈ steps c r, Forgetful (f o) := by
  simp only [steps, List.forall_mem_cons, List.not_mem_nil, false_implies, implies_true, and_true]
  exact ⟨(importArtifacts_forgetful c o.imports o.settings).succeeding,
    (buildExample_forgetful c o.build o.settings r).succeeding,
    (SmokeTest.run_forgetful c o.test o.settings r).succeeding⟩

/-- **A verification is the chain of its steps.** -/
theorem verify_chain (o : VerifyOptions) (w : World σ) :
    Effect.ofAction ((verify c o r w).1.passed, (verify c o r w).2) =
      Effect.ofAction (chain ((steps c r).map (· o)) w) := by
  have himports : importsStep c o w = ((importing c o w).1.isOk, (importing c o w).2) := rfl
  have hbuild : buildStep c r o (importing c o w).2 =
      ((building c o r w).1.isOk, (building c o r w).2) := rfl
  have htest : smokeStep c r o (building c o r w).2 =
      ((testing c o r w).1.isOk, (testing c o r w).2) := rfl
  simp only [steps, List.map_cons, List.map_nil, chain, himports, hbuild, htest]
  rw [verify_eq]
  cases hi : (importing c o w).1 with
  | error f => rfl
  | ok imported =>
    simp only [verifyBuild_eq]
    rw [show buildExample c o.build o.settings r (importing c o w).2 = building c o r w from rfl]
    cases hb : (building c o r w).1 with
    | error f => rfl
    | ok result =>
      unfold verifyTest
      rw [show SmokeTest.run c o.test o.settings r (building c o r w).2 = testing c o r w from rfl]
      cases ht : testing c o r w with
      | mk result w' =>
        cases result with
        | error f => rfl
        | ok tested => cases tested <;> rfl

end Steps

namespace CommandLine

/-! ## Command lines -/

section Run

variable {c : Context} {args : List Bytes} {i : Invocation} {r : Runner σ} {w w' : World σ}
  {scripts : CompletionScripts}

/-- A command that answers writes its answer, and its success is the exit code. -/
theorem run_of_answer (hparse : parse c args = .ok i) {answer : Answer}
    (h : execute c r i w scripts = (.ok answer, w')) :
    (run c r args w scripts).1.stdout = answer.text ∧
      ((run c r args w scripts).1.exitCode == 0) = answer.success ∧ (run c r args w scripts).2 = w' := by
  rw [run, hparse]
  dsimp only
  rw [h]
  cases hsuccess : answer.success <;> simp [hsuccess]

/-- A command that stops writes nothing, and does not end with the code zero. -/
theorem run_of_stop (hparse : parse c args = .ok i) {stop : Stop}
    (h : execute c r i w scripts = (.error stop, w')) :
    (run c r args w scripts).1.stdout = "" ∧ ((run c r args w scripts).1.exitCode == 0) = false ∧
      (run c r args w scripts).2 = w' := by
  rw [run, hparse]
  dsimp only
  rw [h]
  exact ⟨rfl, rfl, rfl⟩

theorem execute_verify {verbose : Bool} {config : Option Path} {flags : StepFlags} {name : String}
    {format : ReportFormat} (hfolder : flags.packageFolder.isSome)
    (hformat : ReportFormat.parse name = .ok format) (w : World σ) :
    execute c r ⟨verbose, config, .verify flags name⟩ w scripts =
      andThen (stepOptionsFor c config flags w) fun o w =>
        (.ok ⟨(verify c o r w).1.render format verbose, (verify c o r w).1.passed⟩,
          (verify c o r w).2) := by
  obtain ⟨folder, hfolder⟩ := Option.isSome_iff_exists.1 hfolder
  simp only [execute, executeVerify, requirePackageFolder, hfolder, hformat]

end Run

/-! ## Processes -/

variable {c : Context}

/-- The files from which the configuration is loaded. -/
def configPaths (c : Context) (explicit : Option Path) : List Path :=
  [globalConfigPath c, projectConfigPath c.directory] ++ explicit.toList

/-- No configuration file has come, gone or got another text. -/
def SameConfiguration (c : Context) (explicit : Option Path) (fs fs' : FileSystem) : Prop :=
  ∀ p ∈ configPaths c explicit,
    fs'.exists_ c.workingDirectory p = fs.exists_ c.workingDirectory p ∧
      fs'.readText c.workingDirectory p = fs.readText c.workingDirectory p

theorem loadConfig_congr {explicit : Option Path} {fs fs' : FileSystem}
    (h : SameConfiguration c explicit fs fs') :
    loadConfig c fs' explicit = loadConfig c fs explicit := by
  have hload : ∀ p ∈ configPaths c explicit,
      Config.load fs' c.workingDirectory p = Config.load fs c.workingDirectory p := by
    intro p hp
    rw [Config.load, Config.load, (h p hp).2]
  have hpresent : ∀ p ∈ configPaths c explicit, ∀ event,
      Config.loadIfPresent fs' c.workingDirectory p event =
        Config.loadIfPresent fs c.workingDirectory p event := by
    intro p hp event
    rw [Config.loadIfPresent, Config.loadIfPresent, (h p hp).1, hload p hp]
  have hexplicit : explicit.map (Config.load fs' c.workingDirectory) =
      explicit.map (Config.load fs c.workingDirectory) := by
    cases explicit with
    | none => rfl
    | some p => exact congrArg some (hload p (by simp [configPaths]))
  unfold loadConfig Config.loadLayers
  simp only [hpresent (globalConfigPath c) (by simp [configPaths]),
    hpresent (projectConfigPath c.directory) (by simp [configPaths]), hexplicit]

/-- A process: what it answers and what it leaves behind, from the first event to the last. -/
abbrev Process := Result × World Unit

/-- What is seen of a process. -/
def Process.effect (p : Process) : Effect := .ofAction (p.1.exitCode == 0, p.2)

/-- Command lines one after the other, each as a process of its own, up to the first that does not end with
the code zero. What comes of a command depends on the command and the files only. -/
def inTurn (c : Context) (r : Runner Unit) (scripts : CompletionScripts) :
    List (List Bytes) → FileSystem → List Process
  | [], _ => []
  | args :: rest, fs =>
    let process := run c r args (.start fs ()) scripts
    process :: if process.1.exitCode = 0 then inTurn c r scripts rest process.2.files else []

/-- The files after processes. -/
def filesAfter (fs : FileSystem) : List Process → FileSystem
  | [] => fs
  | process :: rest => filesAfter process.2.files rest

/-- The command line makes a step with the options that the configuration and the flags give, and fails if
the configuration does. -/
def Makes (c : Context) (r : Runner Unit) (scripts : CompletionScripts) (config : Option Path)
    (flags : StepFlags) (args : List Bytes)
    (step : VerifyOptions → World Unit → Bool × World Unit) : Prop :=
  ∀ fs, Process.effect (run c r args (.start fs ()) scripts) =
    match (loadConfig c fs config).1 with
    | .error _ => ⟨false, fs, []⟩
    | .ok loaded => .ofAction (step (resolveOptions c.directory loaded flags) (.start fs ()))

variable {r : Runner Unit} {scripts : CompletionScripts} {config : Option Path} {flags : StepFlags}
  {args : List Bytes} {step : VerifyOptions → World Unit → Bool × World Unit}

/-- A command that gets its options and then answers makes the step that its answer tells of. -/
theorem makes_of_execute {i : Invocation}
    (next : VerifyOptions → World Unit → Except Stop Answer × World Unit)
    (hparse : parse c args = .ok i)
    (hexecute : ∀ w, execute c r i w scripts = andThen (stepOptionsFor c config flags w) next)
    (hnext : ∀ o w, Effect.ofAction ((next o w).1.toOption.any Answer.success, (next o w).2) =
      .ofAction (step o w))
    (hstep : ∀ o, Forgetful (step o)) : Makes c r scripts config flags args step := by
  intro fs
  have hexit : ∀ w : World Unit, Process.effect (run c r args w scripts) = .ofAction
      ((execute c r i w scripts).1.toOption.any Answer.success, (execute c r i w scripts).2) := by
    intro w
    unfold Process.effect
    rcases hdone : execute c r i w scripts with ⟨stop | answer, w'⟩
    · obtain ⟨-, hcode, hworld⟩ := run_of_stop hparse hdone
      rw [hcode, hworld]
      rfl
    · obtain ⟨-, hcode, hworld⟩ := run_of_answer hparse hdone
      rw [hcode, hworld]
      rfl
  have hfiles : (World.start fs ()).files = fs := rfl
  rw [hexit, hexecute, stepOptionsFor, hfiles]
  rcases loadConfig c fs config with ⟨_ | loaded, events⟩
  · rfl
  · exact (hnext _ _).trans ((hstep _).effect _)

theorem makes_imports {verbose : Bool}
    (hparse : parse c args = .ok ⟨verbose, config, .imports flags⟩)
    (hfolder : flags.packageFolder.isSome) : Makes c r scripts config flags args (importsStep c) := by
  obtain ⟨folder, hfolder⟩ := Option.isSome_iff_exists.1 hfolder
  refine makes_of_execute
    (fun o w => andThen (asStop (importArtifacts c o.imports o.settings w)) fun report w =>
      (.ok (.ok (linesText (report.copied.map Path.display))), w))
    hparse (fun w => ?_) (fun o w => ?_) fun o => steps_forgetful c r o _ (by simp [steps])
  · simp only [execute, executeImports, requirePackageFolder, hfolder]
  · unfold importsStep succeeding
    rcases importArtifacts c o.imports o.settings w with ⟨_ | _, _⟩ <;> rfl

theorem makes_build {verbose : Bool}
    (hparse : parse c args = .ok ⟨verbose, config, .build flags⟩) :
    Makes c r scripts config flags args (buildStep c r) := by
  refine makes_of_execute _ hparse (fun w => rfl) (fun o w => ?_)
    fun o => steps_forgetful c r o _ (by simp [steps])
  unfold buildStep succeeding
  rcases buildExample c o.build o.settings r w with ⟨_ | _, _⟩ <;> rfl

theorem makes_test {verbose : Bool}
    (hparse : parse c args = .ok ⟨verbose, config, .test flags⟩) :
    Makes c r scripts config flags args (smokeStep c r) := by
  refine makes_of_execute _ hparse (fun w => rfl) (fun o w => ?_)
    fun o => steps_forgetful c r o _ (by simp [steps])
  unfold smokeStep succeeding
  rcases SmokeTest.run c o.test o.settings r w with ⟨_ | _, _⟩ <;> rfl

theorem makes_verify {verbose : Bool} {name : String} {format : ReportFormat}
    (hparse : parse c args = .ok ⟨verbose, config, .verify flags name⟩)
    (hfolder : flags.packageFolder.isSome) (hformat : ReportFormat.parse name = .ok format) :
    Makes c r scripts config flags args fun o => chain ((steps c r).map (· o)) :=
  makes_of_execute _ hparse (execute_verify hfolder hformat) (verify_chain c r) fun o =>
    chain_forgetful (by simpa using steps_forgetful c r o)

/-! ## One process or several -/

/-- **Steps in one process are the same work as one process for each.** -/
theorem inTurn_chain {argss : List (List Bytes)}
    {actions : List (VerifyOptions → World Unit → Bool × World Unit)}
    (hmakes : List.Forall₂ (Makes c r scripts config flags) argss actions) {o : VerifyOptions}
    (hforget : ∀ f ∈ actions, Forgetful (f o)) {loaded : Config}
    (ho : resolveOptions c.directory loaded flags = o) {fs : FileSystem}
    (hload : (loadConfig c fs config).1 = .ok loaded)
    (hsame : ∀ p ∈ inTurn c r scripts argss fs, (loadConfig c p.2.files config).1 = .ok loaded) :
    Effect.ofAction (chain (actions.map (· o)) (.start fs ())) =
      ⟨(inTurn c r scripts argss fs).map (·.1.exitCode) == List.replicate argss.length 0,
        filesAfter fs (inTurn c r scripts argss fs), (inTurn c r scripts argss fs).flatMap (·.2.trace)⟩ := by
  induction hmakes generalizing fs with
  | nil => rfl
  | @cons args action argss actions hmake _ ih =>
    obtain ⟨hf, hactions⟩ := List.forall_mem_cons.1 hforget
    have heffect : Process.effect (run c r args (.start fs ()) scripts) =
        .ofAction (action o (.start fs ())) := by
      rw [hmake fs, hload, ← ho]
    obtain ⟨hsuccess, hfiles, htrace⟩ := Effect.mk.inj heffect
    rw [List.map_cons, chain, ← hsuccess]
    rw [inTurn] at hsame ⊢
    by_cases hzero : (run c r args (.start fs ()) scripts).1.exitCode = 0
    · rw [if_pos hzero] at hsame ⊢
      obtain ⟨hfirst, hrest⟩ := List.forall_mem_cons.1 hsame
      have hforget' : ∀ f ∈ actions.map (· o), Forgetful f := by simpa using hactions
      have hchain := (chain_forgetful hforget').effect (action o (.start fs ())).2
      rw [if_pos (beq_iff_eq.2 hzero), hchain, ← hfiles, ← htrace]
      rw [ih hactions hfirst hrest]
      simp [Effect.behind, filesAfter, hzero, List.replicate_succ]
    · rw [if_neg hzero, if_neg (by simpa using hzero), ← heffect]
      simp [Process.effect, Effect.ofAction, filesAfter, hzero, List.replicate_succ]

/-- **The command `verify` is the commands `imports`, `build` and `test` one after the other**, up to the
first that fails, if none of them changes a configuration file. -/
theorem run_verify_inTurn {fs : FileSystem} {verifyArgs importsArgs buildArgs testArgs : List Bytes}
    {v v₁ v₂ v₃ : Bool} {name : String} {format : ReportFormat}
    (hverify : parse c verifyArgs = .ok ⟨v, config, .verify flags name⟩)
    (himports : parse c importsArgs = .ok ⟨v₁, config, .imports flags⟩)
    (hbuild : parse c buildArgs = .ok ⟨v₂, config, .build flags⟩)
    (htest : parse c testArgs = .ok ⟨v₃, config, .test flags⟩)
    (hfolder : flags.packageFolder.isSome) (hformat : ReportFormat.parse name = .ok format)
    (hsame : ∀ p ∈ inTurn c r scripts [importsArgs, buildArgs, testArgs] fs,
      SameConfiguration c config fs p.2.files) :
    let whole := run c r verifyArgs (.start fs ()) scripts
    let parts := inTurn c r scripts [importsArgs, buildArgs, testArgs] fs
    (whole.1.exitCode = 0 ↔ parts.map (·.1.exitCode) = [0, 0, 0]) ∧
      whole.2.trace = parts.flatMap (·.2.trace) ∧ whole.2.files = filesAfter fs parts := by
  intro whole parts
  have hparts : List.Forall₂ (Makes c r scripts config flags) [importsArgs, buildArgs, testArgs]
      (steps c r) :=
    .cons (makes_imports himports hfolder) (.cons (makes_build hbuild) (.cons (makes_test htest) .nil))
  suffices heffect : Process.effect whole =
      ⟨parts.map (·.1.exitCode) == [0, 0, 0], filesAfter fs parts, parts.flatMap (·.2.trace)⟩ by
    obtain ⟨hsuccess, hfiles, htrace⟩ := Effect.mk.inj heffect
    exact ⟨by simpa using congrArg (· = true) hsuccess, htrace, hfiles⟩
  have hwhole : Process.effect whole = _ :=
    makes_verify hverify hfolder hformat fs
  cases hload : (loadConfig c fs config).1 with
  | ok loaded =>
    rw [hload] at hwhole
    refine hwhole.trans (inTurn_chain hparts (steps_forgetful c r _) rfl hload fun p hp => ?_)
    rw [loadConfig_congr (hsame p hp), hload]
  | error e =>
    -- no command gets further than the configuration, and the first ends the sequence
    have himports : Process.effect (run c r importsArgs (.start fs ()) scripts) = _ :=
      makes_imports himports hfolder fs
    rw [hload] at hwhole himports
    obtain ⟨hsuccess, hfiles, htrace⟩ := Effect.mk.inj himports
    have hfailed : (run c r importsArgs (.start fs ()) scripts).1.exitCode ≠ 0 := by simpa using hsuccess
    have hone : parts = [run c r importsArgs (.start fs ()) scripts] := by simp [parts, inTurn, hfailed]
    rw [hone, hwhole]
    refine (Effect.mk.injEq ..).mpr ⟨?_, hfiles.symm, ?_⟩
    · simp
    · simpa using htrace.symm

instance (c : Context) (explicit : Option Path) (fs fs' : FileSystem) :
    Decidable (SameConfiguration c explicit fs fs') :=
  inferInstanceAs (Decidable (∀ _ ∈ _, _ = _ ∧ _ = _))

/-- A working directory, and no variables. -/
def desk : Context := ⟨[Utf8.encode "work"], [], .ofText "/home/user"⟩

/-- A package with a library, and the configuration of its project. -/
def project : FileSystem :=
  FileSystem.empty.plantAll [] [
    .file (.ofText "/work/pkg/lib/libz.so") (Utf8.encode "library") false,
    .file (.ofText "/work/pkgcheck.toml") (Utf8.encode "build.generator = \"Ninja\"\n") false]

/-- Programs that succeed, and build an example. -/
def maker : Runner Unit :=
  .leaving [] [.file (.ofText "/work/build/example") (Utf8.encode "program") true]

/-- A command with the package folder. -/
def callOf (name : String) : List Bytes := [name, "--package-folder", "pkg"].map Utf8.encode

/-- The package folder and no other flag. -/
def folderOnly : StepFlags := ⟨.none, some (.ofText "pkg"), none, none, none, [], false⟩

/-- One process starts the three programs that the three processes start. -/
theorem run_verify_inTurn_built :
    let parts := inTurn desk maker .plain [callOf "imports", callOf "build", callOf "test"] project
    (∀ p ∈ parts, SameConfiguration desk none project p.2.files) ∧
      (run desk maker (callOf "verify") (.start project ())).1.exitCode = 0 ∧
      (run desk maker (callOf "verify") (.start project ())).2.trace =
        parts.flatMap (·.2.trace) ∧
      parts.map (·.2.trace.length) = [0, 2, 1] := by
  intro parts
  have hsame : ∀ p ∈ parts, SameConfiguration desk none project p.2.files := by decide +kernel
  have hverify : parse desk (callOf "verify") =
      .ok ⟨false, none, .verify folderOnly "human"⟩ := by decide +kernel
  have himports : parse desk (callOf "imports") = .ok ⟨false, none, .imports folderOnly⟩ := by
    decide +kernel
  have hbuild : parse desk (callOf "build") = .ok ⟨false, none, .build folderOnly⟩ := by
    decide +kernel
  have htest : parse desk (callOf "test") = .ok ⟨false, none, .test folderOnly⟩ := by
    decide +kernel
  have hformat : ReportFormat.parse "human" = .ok .human := by decide +kernel
  obtain ⟨hexit, htrace, -⟩ :=
    run_verify_inTurn hverify himports hbuild htest rfl hformat hsame
  exact ⟨hsame, hexit.2 (by decide +kernel), htrace, by decide +kernel⟩

end CommandLine

end ConsumerCheck
