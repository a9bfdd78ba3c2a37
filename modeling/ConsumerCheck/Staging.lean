import ConsumerCheck.FileSystem.Walk
import ConsumerCheck.Journal
import ConsumerCheck.Options

/-!
# Staging of a package's runtime files

Staging is `import_artifacts`, which has two phases. The first reads the package and makes a plan: which file
goes to which place below the run layout. The second carries the plan out, file by file. A fault of the first
phase leaves every file as it was; the second stops at the first file that cannot be copied, and what it has
written stays.

* `Plan.insert` — a plan with one more file. Places are in the order of their components, and a place that
  is planned twice keeps its spelling and takes the later source, as in a `BTreeMap`;
* `Staging.survey` — the first phase;
* `Staging.carryOut` — the second phase;
* `Staging.stage` — both.
-/

namespace ConsumerCheck

/-- What staging did. -/
structure ImportReport where
  /-- The places that were written, relative to the run layout. -/
  copied : List Path
  /-- The patterns of the rules for other systems, which were left out. -/
  filteredOut : List String
  deriving DecidableEq, Repr

/-- Which file goes to which place: pairs of a place below the run layout and a source, in the order of
the places. -/
abbrev Plan := List (Path × Path)

/-- The plan in which `source` goes to `dest`. -/
def Plan.insert (dest source : Path) : Plan → Plan
  | [] => [(dest, source)]
  | (d, s) :: rest =>
    if d.components = dest.components then (d, source) :: rest
    else if FileSystem.before dest d then (dest, source) :: (d, s) :: rest
    else (d, s) :: Plan.insert dest source rest

namespace Staging

/-- What the first phase has found. -/
structure Survey where
  plan : Plan
  filteredOut : List String
  deriving DecidableEq, Repr

/-- The first rule whose destination is not the runtime directory. -/
def foreignRule? (rules : List CopyRule) : Option CopyRule :=
  rules.find? fun rule => rule.dst.components != runtimeDir.components

/-- Whether a rule is left out because it is for other systems. -/
def isFilteredOut (options : ImportOptions) (settings : Settings) (rule : CopyRule) : Bool :=
  options.filterHostPlatform && !rule.platform.matchesOs settings.os

/-- The survey after one rule, and what is worth noting about it. -/
def surveyRule (fs : FileSystem) (wd : Location) (options : ImportOptions) (settings : Settings)
    (rule : CopyRule) (s : Survey) : Except Failure Survey × List Event :=
  if isFilteredOut options settings rule then
    (.ok { s with filteredOut := s.filteredOut ++ [rule.pattern] },
      [.ruleSkipped rule.pattern rule.platform])
  else
    match Pattern.parse rule.pattern with
    | .error e => (.error (.config (.badPattern rule.pattern e)), [])
    | .ok pattern =>
      let src := options.packageFolder.join rule.src
      if fs.isDirectory wd src then
        match fs.findMatching wd src pattern with
        | .error e => (.error (.filesystem src e), [])
        | .ok found =>
          let plan := found.foldl
            (fun plan p => Plan.insert (rule.dst.join p) (src.join p) plan) s.plan
          (.ok { s with plan := plan }, [.matched rule.pattern found.length src])
      else (.ok s, [.nothingToCopy rule.src rule.pattern])

/-- The survey after all rules, one after the other. -/
def surveyRules (fs : FileSystem) (wd : Location) (options : ImportOptions) (settings : Settings) :
    List CopyRule → Survey → Except Failure Survey × List Event
  | [], s => (.ok s, [])
  | rule :: rules, s =>
    match surveyRule fs wd options settings rule s with
    | (.error e, events) => (.error e, events)
    | (.ok s, events) =>
      let (result, more) := surveyRules fs wd options settings rules s
      (result, events ++ more)

/-- The first phase: the destinations of all rules are checked before the package folder, and the
package folder before the first rule is looked at. -/
def survey (fs : FileSystem) (wd : Location) (options : ImportOptions) (settings : Settings) :
    Except Failure Survey × List Event :=
  match foreignRule? options.rules with
  | some rule => (.error (.config (.foreignTarget rule.pattern rule.dst)), [])
  | none =>
    match fs.checkReadableDirectory wd options.packageFolder with
    | .error e => (.error (.filesystem options.packageFolder e), [])
    | .ok () => surveyRules fs wd options settings options.rules ⟨[], []⟩

/-- Makes the directory of a destination, with those above it. -/
def makeParent (fs : FileSystem) (wd : Location) (dest : Path) : Except Failure Unit × FileSystem :=
  match dest.parent? with
  | none => (.ok (), fs)
  | some parent =>
    match fs.makeDirectories wd parent with
    | (.error e, fs) => (.error (.filesystem parent e), fs)
    | (.ok (), fs) => (.ok (), fs)

/-- The second phase. -/
def carryOut (wd : Location) (destRoot : Path) :
    Plan → FileSystem → Except Failure Unit × FileSystem × List Event
  | [], fs => (.ok (), fs, [])
  | (place, source) :: rest, fs =>
    let dest := destRoot.join place
    match makeParent fs wd dest with
    | (.error e, fs) => (.error e, fs, [])
    | (.ok (), fs) =>
      match fs.copyFile wd source dest with
      | (.error e, fs) => (.error (.filesystem source e), fs, [])
      | (.ok (), fs) =>
        let (result, fs, events) := carryOut wd destRoot rest fs
        (result, fs, .copied source dest :: events)

/-- Both phases: what was staged or why it failed, the files afterwards, and what is worth noting. -/
def stage (fs : FileSystem) (wd : Location) (options : ImportOptions) (settings : Settings) :
    Except Failure ImportReport × FileSystem × List Event :=
  match survey fs wd options settings with
  | (.error e, events) => (.error e, fs, events)
  | (.ok s, events) =>
    match carryOut wd options.destRoot s.plan fs with
    | (.error e, fs, more) => (.error e, fs, events ++ more)
    | (.ok (), fs, more) =>
      (.ok ⟨s.plan.map (·.1), s.filteredOut⟩, fs,
        events ++ more ++ [.imported s.plan.length])

end Staging

end ConsumerCheck
