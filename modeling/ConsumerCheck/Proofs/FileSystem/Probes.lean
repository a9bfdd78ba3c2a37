import ConsumerCheck.Proofs.FileSystem.Resolution

/-!
# What a question looks at

To follow a path is to look at the locations on the way: each directory that is passed, each name that
is looked up in it, and the same for the targets of links. Where two file systems hold the same at these
locations, the path leads to the same in both.

* `FileSystem.probedTo`, `FileSystem.probed` — the locations looked at up to the first link, and over
  links;
* `FileSystem.probes` — the locations looked at while a path is followed.

Principal results: `follow_congr`, `stat_congr` — a path leads to the same where the same stands at all
that is looked at; `mem_probes_of_locate` — what it leads to is among that.
-/

namespace ConsumerCheck.FileSystem

/-- The locations that are looked at while steps are taken from a location, up to the first link. -/
def probedTo (fs : FileSystem) (place : Location) : List Step → List Location
  | [] => [place]
  | .here :: rest => place :: fs.probedTo place rest
  | .slash :: rest => place :: fs.probedTo place rest
  | .parent :: rest => place :: fs.probedTo place.dropLast rest
  | .name n :: rest =>
    place :: match fs.get? (place ++ [n]) with
      | none => [place ++ [n]]
      | some (.link _) => [place ++ [n]]
      | some _ => fs.probedTo (place ++ [n]) rest

/-- The locations that are looked at while steps are taken from a location, over at most a number of
links. -/
def probed (fs : FileSystem) : Nat → Location → List Step → List Location
  | 0, place, steps => fs.probedTo place steps
  | links + 1, place, steps =>
    fs.probedTo place steps ++
      match fs.advance .through place steps with
      | .link dir target rest =>
        fs.probed links (if target.isAbsolute then [] else dir) (target.steps ++ rest)
      | _ => []

/-- The locations that are looked at while a path is followed. -/
def probes (fs : FileSystem) (wd : Location) (p : Path) : List Location :=
  fs.probed maxLinks (p.start wd) p.steps

variable {fs fs' : FileSystem} {ending : Ending} {wd place q : Location} {links : Nat}
  {steps : List Step} {p : Path}

/-! ## Following a path -/

theorem mem_probedTo_self (place : Location) (steps : List Step) :
    place ∈ fs.probedTo place steps := by
  cases steps with
  | nil => exact List.mem_cons_self
  | cons step rest => cases step <;> exact List.mem_cons_self

/-- The name that is looked up is looked at, and so is the way on from what is found there. -/
theorem probedTo_name (place : Location) (n : Bytes) (rest : List Step) :
    place ++ [n] ∈ fs.probedTo place (.name n :: rest) ∧
      ∀ e, fs.get? (place ++ [n]) = some e → (∀ t, e ≠ .link t) →
        fs.probedTo (place ++ [n]) rest ⊆ fs.probedTo place (.name n :: rest) := by
  rw [probedTo]
  cases he : fs.get? (place ++ [n]) with
  | none => simp
  | some e =>
    cases e with
    | link t => simp
    | file _ _ | directory _ | device _ =>
      simp only [Option.some.injEq, forall_eq']
      exact ⟨List.mem_cons_of_mem _ (mem_probedTo_self ..), fun _ => List.subset_cons_self _ _⟩

theorem advance_congr (ending : Ending)
    (h : ∀ q ∈ fs.probedTo place steps, fs'.get? q = fs.get? q) :
    fs'.advance ending place steps = fs.advance ending place steps := by
  induction steps generalizing place with
  | nil => rfl
  | cons step rest ih =>
    have hplace := h place (mem_probedTo_self ..)
    have hrest : ∀ next, fs.probedTo next rest ⊆ fs.probedTo place (step :: rest) →
        fs'.advance ending next rest = fs.advance ending next rest :=
      fun next hsub => ih fun q hq => h q (hsub hq)
    unfold advance
    cases step with
    | here => simp only [hplace, hrest place (List.subset_cons_self _ _)]
    | slash => simp only [hplace, hrest place (List.subset_cons_self _ _)]
    | parent => simp only [hplace, hrest place.dropLast (List.subset_cons_self _ _)]
    | name n =>
      obtain ⟨hmem, hsub⟩ := fs.probedTo_name place n rest
      simp only [hplace, h _ hmem]
      cases he : fs.get? (place ++ [n]) with
      | none => rfl
      | some e =>
        cases e with
        | link t => rfl
        | file c m => simp only [hrest _ (hsub _ he (by simp))]
        | directory m => simp only [hrest _ (hsub _ he (by simp))]
        | device d => simp only [hrest _ (hsub _ he (by simp))]

/-- A link that is to be followed is one for every way of ending. -/
theorem advance_link {dir : Location} {t : Path} {rest : List Step}
    (h : fs.advance ending place steps = .link dir t rest) :
    fs.advance .through place steps = .link dir t rest := by
  have hadv : Advanced fs ending place steps (.link dir t rest) := .of_advance h (by simp)
  have hthrough := hadv.link_append (Keeps.refl fs) []
  rw [List.append_nil, List.append_nil] at hthrough
  exact hthrough.advance_eq

theorem probed_succ {dir : Location} {t : Path} {rest : List Step}
    (h : fs.advance .through place steps = .link dir t rest) (links : Nat) :
    fs.probed (links + 1) place steps = fs.probedTo place steps ++
      fs.probed links (if t.isAbsolute then [] else dir) (t.steps ++ rest) := by
  rw [probed]
  simp only [h]

theorem probedTo_subset (links : Nat) (place : Location) (steps : List Step) :
    fs.probedTo place steps ⊆ fs.probed links place steps := by
  cases links with
  | zero => exact List.Subset.refl _
  | succ links => exact List.subset_append_left _ _

/-- **Steps lead to the same where the same stands at all that is looked at.** -/
theorem follow_congr (ending : Ending)
    (h : ∀ q ∈ fs.probed links place steps, fs'.get? q = fs.get? q) :
    fs'.follow ending links place steps = fs.follow ending links place steps := by
  induction links generalizing place steps with
  | zero =>
    have hadv := advance_congr ending fun q hq => h q (probedTo_subset 0 place steps hq)
    unfold follow
    rw [hadv]
    cases fs.advance ending place steps <;> rfl
  | succ links ih =>
    have hadv := advance_congr ending fun q hq => h q (probedTo_subset (links + 1) place steps hq)
    unfold follow
    rw [hadv]
    cases hw : fs.advance ending place steps with
    | link dir t rest =>
      refine ih fun q hq => h q ?_
      rw [probed_succ (advance_link hw)]
      exact List.mem_append_right _ hq
    | found _ => rfl
    | missing _ _ _ => rfl
    | refused _ => rfl

theorem Advanced.mem_probedTo (h : Advanced fs .through place steps (.found q)) :
    q ∈ fs.probedTo place steps := by
  generalize hw : Walked.found q = w at h
  induction h with
  | done =>
    cases hw
    exact mem_probedTo_self ..
  | slash _ _ ih => exact List.mem_cons_of_mem _ (ih hw)
  | here _ _ _ ih => exact List.mem_cons_of_mem _ (ih hw)
  | parent _ _ _ ih => exact List.mem_cons_of_mem _ (ih hw)
  | name _ _ _ _ hentry hlink _ ih => exact (probedTo_name _ _ _).2 _ hentry hlink (ih hw)
  | link _ _ _ _ _ _ => cases hw
  | itself _ _ _ _ hend => cases hend
  | missing _ _ _ _ => cases hw
  | missingSlash _ _ _ _ _ => cases hw
  | createdSlash _ _ _ => cases hw

theorem Followed.mem_probed (h : Followed fs .through links place steps (.found q)) :
    q ∈ fs.probed links place steps := by
  generalize hw : Walked.found q = w at h
  induction h with
  | done h _ =>
    subst hw
    exact probedTo_subset _ _ _ h.mem_probedTo
  | across h _ ih =>
    rw [probed_succ h.advance_eq]
    exact List.mem_append_right _ (ih hw)

/-- What a path leads to is looked at. -/
theorem mem_probes_of_locate (h : fs.locate wd p = .ok q) : q ∈ fs.probes wd p := by
  obtain ⟨-, hf⟩ := locate_ok_iff.1 h
  exact (Followed.of_follow hf (by simp)).mem_probed

section Congr

variable (h : ∀ q ∈ fs.probes wd p, fs'.get? q = fs.get? q)
include h

theorem walk_congr (ending : Ending) : fs'.walk wd ending p = fs.walk wd ending p := by
  have hfollow := follow_congr ending h
  unfold Path.start at hfollow
  unfold walk
  rw [hfollow]

theorem locate_congr : fs'.locate wd p = fs.locate wd p := by
  rw [locate, locate, walk_congr h]

theorem locateLink_congr : fs'.locateLink wd p = fs.locateLink wd p := by
  rw [locateLink, locateLink, walk_congr h]

/-- **A path leads to the same entry where the same stands at all that is looked at.** -/
theorem stat_congr : fs'.stat wd p = fs.stat wd p := by
  unfold stat
  rw [locate_congr h]
  cases hl : fs.locate wd p with
  | error _ => rfl
  | ok q =>
    simp only [bind, Except.bind]
    rw [h q (mem_probes_of_locate hl)]

theorem isFile_congr : fs'.isFile wd p = fs.isFile wd p := by
  rw [isFile, isFile, stat_congr h]

theorem isDirectory_congr : fs'.isDirectory wd p = fs.isDirectory wd p := by
  rw [isDirectory, isDirectory, stat_congr h]

theorem checkReadableDirectory_congr :
    fs'.checkReadableDirectory wd p = fs.checkReadableDirectory wd p := by
  rw [checkReadableDirectory, checkReadableDirectory, stat_congr h]

end Congr

end ConsumerCheck.FileSystem
