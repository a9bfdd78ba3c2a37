import ConsumerCheck.FileSystem.Seed
import ConsumerCheck.Proofs.Config.Precedence

/-!
# Loading as a fold

Configurations are a monoid under the merge, with the configuration that says nothing as its neutral element. So a
file that is missing may count as one that says nothing, and what is loaded is the product of the files. Only the
file that is named must be there.

* `Config.files` — the files of a configuration, the lowest layer first;
* `Config.layer` — a file as a layer.

Principal results: `loadLayers_of_parsed` — what the files that may be missing contribute;
`loadLayers_monoid_fold` — the laws of the merge, and loading as its fold over the files.
-/

namespace ConsumerCheck

namespace Config

/-- The files of a configuration, the lowest layer first. -/
def files (global : Option Path) (project : Path) (explicit : Option Path) : List Path :=
  global.toList ++ project :: explicit.toList

/-- A file as a layer, where `parsed` says what each file says. A file that is missing says nothing. -/
def layer (fs : FileSystem) (wd : Location) (parsed : Path → Config) (p : Path) : Config :=
  if fs.exists_ wd p = true then parsed p else .empty

variable {fs : FileSystem} {wd : Location} {p : Path} {parsed : Path → Config}

theorem exists_holds_of_parsed (h : fs.exists_ wd p = true → load fs wd p = .ok (parsed p)) :
    ∃ said, Holds fs wd p said ∧ said.getD .empty = layer fs wd parsed p := by
  unfold layer
  split
  · rename_i hexists
    exact ⟨some (parsed p), h hexists, rfl⟩
  · rename_i hmissing
    exact ⟨none, Bool.eq_false_iff.2 hmissing, rfl⟩

/-- Once the files that may be missing are folded, the file that is named decides. -/
theorem loadLayers_of_parsed {global : Option Path} {project : Path}
    (h : ∀ p ∈ files global project none,
      fs.exists_ wd p = true → load fs wd p = .ok (parsed p)) (explicit : Option Path) :
    let lower := ((files global project none).map (layer fs wd parsed)).foldl merge .empty
    (loadLayers fs wd global project explicit).1 =
      (explicit.map (load fs wd)).elim (.ok lower) (.map lower.merge) := by
  intro lower
  obtain ⟨upper, hupper, hproject⟩ := exists_holds_of_parsed (h project (by simp [files]))
  cases global with
  | none =>
    obtain ⟨events, hload⟩ := loadLayers_of_holds none explicit rfl hupper
    rw [hload, hproject]
    rfl
  | some p =>
    obtain ⟨base, hbase, hglobal⟩ := exists_holds_of_parsed (h p (by simp [files]))
    obtain ⟨events, hload⟩ := loadLayers_of_holds (some p) explicit hbase hupper
    have hlower : lower = (layer fs wd parsed p).merge (layer fs wd parsed project) :=
      congrArg (merge · _) (empty_merge _)
    rw [hload, hproject, hglobal, hlower]

/-- **Configurations are a monoid under the merge, and loading folds it over the files.** If each file that is
there can be parsed, the configuration is the merge of the user's file, the project's and the one that is
named, in this order, where the first two may be missing; if the named one is missing, nothing is loaded. -/
theorem loadLayers_monoid_fold :
    (∀ a b c : Config, (a.merge b).merge c = a.merge (b.merge c)) ∧
    (∀ a : Config, Config.empty.merge a = a ∧ a.merge .empty = a) ∧
    ∀ (fs : FileSystem) (wd : Location) (global : Option Path) (project : Path)
      (explicit : Option Path) (parsed : Path → Config),
      (∀ p ∈ files global project explicit,
        fs.exists_ wd p = true → load fs wd p = .ok (parsed p)) →
      ((∀ p ∈ explicit, fs.exists_ wd p = true) →
        (loadLayers fs wd global project explicit).1 =
          .ok (((files global project explicit).map (layer fs wd parsed)).foldl merge .empty)) ∧
      ∀ p ∈ explicit, fs.exists_ wd p = false →
        ∃ cause, (loadLayers fs wd global project explicit).1 = .error (.unreadable p cause) := by
  refine ⟨merge_assoc, fun a => ⟨empty_merge a, merge_empty a⟩, ?_⟩
  intro fs wd global project explicit parsed h
  have hfiles : files global project explicit = files global project none ++ explicit.toList := by
    simp [files]
  have hload := loadLayers_of_parsed
    (fun p hp => h p (hfiles ▸ List.mem_append_left _ hp)) explicit
  dsimp only at hload
  rw [hload, hfiles, List.map_append, List.foldl_append]
  cases explicit with
  | none => exact ⟨fun _ => rfl, by simp⟩
  | some p =>
    constructor
    · intro hexists
      have hp := hexists p rfl
      rw [Option.map_some, h p (by simp [files]) hp]
      simp [layer, hp, Except.map]
    · rintro q ⟨⟩ hmissing
      obtain ⟨cause, hcause⟩ := load_of_missing hmissing
      exact ⟨cause, by rw [Option.map_some, hcause]; rfl⟩

/-- The user's file and one that can be named, which choose different architectures. There is no project's
file. -/
def architectures : FileSystem :=
  FileSystem.empty.plantAll [] [
    .file (.ofText "user")
      (Utf8.encode "settings.arch = \"x86\"\nbuild.generator = \"Ninja\"\n") false,
    .file (.ofText "named") (Utf8.encode "settings.arch = \"armv8\"\n") false]

/-- What the two files say. -/
def architecture (p : Path) : Config :=
  if p = .ofText "named" then
    { empty with settings := { Overrides.none with arch := some "armv8" } }
  else
    { empty with
      settings := { Overrides.none with arch := some "x86" }
      build := { BuildConfig.empty with generator := some "Ninja" } }

/-- The named file chooses the architecture, and the user's the generator. That the project's file is missing
matters only if it is named. -/
theorem loadLayers_monoid_fold_named :
    (loadLayers architectures [] (some (.ofText "user")) (.ofText "project")
        (some (.ofText "named"))).1 =
      .ok { empty with
        settings := { Overrides.none with arch := some "armv8" }
        build := { BuildConfig.empty with generator := some "Ninja" } } ∧
    ∃ cause, (loadLayers architectures [] (some (.ofText "user")) (.ofText "project")
        (some (.ofText "project"))).1 = .error (.unreadable (.ofText "project") cause) := by
  obtain ⟨-, -, hload⟩ := loadLayers_monoid_fold
  obtain ⟨hnamed, -⟩ := hload architectures [] (some (.ofText "user")) (.ofText "project")
    (some (.ofText "named")) architecture (by decide +kernel)
  obtain ⟨-, hmissing⟩ := hload architectures [] (some (.ofText "user")) (.ofText "project")
    (some (.ofText "project")) architecture (by decide +kernel)
  refine ⟨(hnamed (by decide +kernel)).trans ?_, hmissing _ rfl (by decide +kernel)⟩
  decide +kernel

end Config

end ConsumerCheck
