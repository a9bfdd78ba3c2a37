import ConsumerCheck.Proofs.FileSystem.Resolution
import ConsumerCheck.Staging
import Mathlib.Data.List.Lex

/-!
# What a plan holds

* `Path.IsPlace` — a path of names below the runtime directory;
* `Plan.Sound` — all places of a plan are such paths, all its sources are regular files, and no two
  places are the same.

Principal results: `findMatching_names` — what a walk finds is named by names that lead from its
beginning to a regular file; `survey_sound` — the plan of a survey is sound.
-/

namespace ConsumerCheck

/-! ## The order of paths -/

theorem Path.Component.key_injective : Function.Injective Path.Component.key := by
  intro c d h
  cases c <;> cases d <;> simp_all [Path.Component.key]
  rename_i xs ys
  exact List.map_injective_iff.2 (fun _ _ => UInt8.toNat_inj.1) h

namespace FileSystem

theorem before_iff {p q : Path} : before p q = true ↔ p.key < q.key := by
  simp [before]

theorem before_trans {p q r : Path} (h : before p q = true) (h' : before q r = true) :
    before p r = true :=
  before_iff.2 (lt_trans (before_iff.1 h) (before_iff.1 h'))

/-- Paths are ordered by their components and by nothing else. -/
theorem before_of_not_before {p q : Path} (hne : p.components ≠ q.components)
    (h : ¬before p q = true) : before q p = true := by
  rw [before_iff] at h ⊢
  refine lt_of_le_of_ne (not_lt.1 h) ?_
  intro hkey
  exact hne (List.map_injective_iff.2 Path.Component.key_injective hkey.symm)

theorem components_ne_of_before {p q : Path} (h : before p q = true) :
    p.components ≠ q.components := by
  intro heq
  have hkey : p.key = q.key := by rw [Path.key, Path.key, heq]
  exact absurd (before_iff.1 h) (by rw [hkey]; exact lt_irrefl _)

end FileSystem

/-! ## Insertion -/

namespace Plan

variable {dest source : Path} {plan : Plan}

theorem mem_insert {e : Path × Path} (h : e ∈ Plan.insert dest source plan) :
    e.1 ∈ dest :: plan.map (·.1) ∧ e.2 ∈ source :: plan.map (·.2) := by
  induction plan with
  | nil =>
    rw [Plan.insert, List.mem_singleton] at h
    subst h
    exact ⟨List.mem_cons_self, List.mem_cons_self⟩
  | cons head rest ih =>
    obtain ⟨d, s⟩ := head
    unfold Plan.insert at h
    split at h
    · rcases List.mem_cons.1 h with rfl | h
      · simp
      · exact ⟨by simp [List.mem_map_of_mem h], by simp [List.mem_map_of_mem h]⟩
    · split at h
      · rcases List.mem_cons.1 h with rfl | h
        · simp
        · exact ⟨List.mem_cons_of_mem _ (List.mem_map_of_mem h),
            List.mem_cons_of_mem _ (List.mem_map_of_mem h)⟩
      · rcases List.mem_cons.1 h with rfl | h
        · simp
        · obtain ⟨h₁, h₂⟩ := ih h
          rw [List.mem_cons] at h₁ h₂
          simp only [List.map_cons, List.mem_cons]
          exact ⟨h₁.imp_right .inr, h₂.imp_right .inr⟩

/-- The places of a plan are in the order of their components. -/
def Sorted (plan : Plan) : Prop :=
  (plan.map (·.1)).Pairwise fun p q => FileSystem.before p q = true

theorem Sorted.insert (h : Sorted plan) : Sorted (Plan.insert dest source plan) := by
  unfold Sorted at h ⊢
  induction plan with
  | nil => simp [Plan.insert]
  | cons head rest ih =>
    obtain ⟨d, s⟩ := head
    rw [List.map_cons, List.pairwise_cons] at h
    unfold Plan.insert
    split
    · rw [List.map_cons, List.pairwise_cons]
      exact h
    rename_i hne
    split
    · rename_i hbefore
      rw [List.map_cons, List.pairwise_cons]
      refine ⟨?_, by rw [List.map_cons, List.pairwise_cons]; exact h⟩
      intro p hp
      rcases List.mem_cons.1 hp with rfl | hp
      · exact hbefore
      · exact FileSystem.before_trans hbefore (h.1 p hp)
    · rename_i hbefore
      rw [List.map_cons, List.pairwise_cons]
      refine ⟨?_, ih h.2⟩
      intro p hp
      obtain ⟨e, he, rfl⟩ := List.mem_map.1 hp
      rcases List.mem_cons.1 (mem_insert he).1 with hdest | hrest
      · rw [hdest]
        exact FileSystem.before_of_not_before (Ne.symm hne) hbefore
      · exact h.1 _ hrest

end Plan

/-! ## What a walk finds -/

namespace FileSystem

variable {fs : FileSystem} {wd : Location} {base : Path} {pattern : Pattern}

theorem mem_insertSorted {p q : Path} {ps : List Path} :
    q ∈ insertSorted p ps ↔ q = p ∨ q ∈ ps := by
  induction ps with
  | nil => simp [insertSorted]
  | cons r rest ih =>
    unfold insertSorted
    split
    · simp
    · rw [List.mem_cons, ih, List.mem_cons, or_left_comm]

theorem mem_sortPaths {q : Path} {ps : List Path} : q ∈ sortPaths ps ↔ q ∈ ps := by
  have hfold : ∀ sorted : List Path,
      q ∈ ps.foldl (fun sorted p => insertSorted p sorted) sorted ↔ q ∈ sorted ∨ q ∈ ps := by
    induction ps with
    | nil => simp
    | cons p rest ih =>
      intro sorted
      rw [List.foldl_cons, ih, mem_insertSorted, List.mem_cons, or_comm (a := q = p), or_assoc]
  rw [sortPaths, hfold]
  simp

/-- What a walk keeps leads to regular files. -/
theorem mem_kept {reached : List Reached} {found : List Path}
    (h : fs.kept wd base pattern reached = .ok found) {p : Path} (hp : p ∈ found) :
    ∃ r ∈ reached, fs.isFile wd r.path = true ∧ p = base.relativeTo r.path := by
  induction reached generalizing found with
  | nil =>
    cases h
    cases hp
  | cons r rest ih =>
    unfold kept at h
    split at h
    · cases h
    cases hrest : fs.kept wd base pattern rest with
    | error e => simp [hrest, bind, Except.bind] at h
    | ok others =>
      simp only [hrest, bind, Except.bind, pure, Except.pure, Except.ok.injEq] at h
      have hothers : p ∈ others → ∃ r' ∈ r :: rest, fs.isFile wd r'.path = true ∧
          p = base.relativeTo r'.path := by
        intro hmem
        obtain ⟨r', hr', hfile⟩ := ih hrest hmem
        exact ⟨r', List.mem_cons_of_mem _ hr', hfile⟩
      split at h
      · rename_i hkeep
        rw [Bool.and_eq_true] at hkeep
        subst h
        rcases List.mem_cons.1 hp with rfl | hp
        · exact ⟨r, List.mem_cons_self, hkeep.1, rfl⟩
        · exact hothers hp
      · subst h
        exact hothers hp

/-- A walk leads along names. -/
theorem mem_walked {place : Location} {r : Reached} (h : r ∈ fs.walked base place) :
    ∃ names, names ≠ [] ∧ names.all isName = true ∧ r.path = base.extend names := by
  obtain ⟨⟨names, entry⟩, hbelow, rfl⟩ := List.mem_map.1 h
  obtain ⟨⟨p, e⟩, hentry, hnames⟩ := List.mem_filterMap.1 hbelow
  dsimp only at hnames
  split at hnames
  · split at hnames
    · rename_i hkeep
      simp only [Option.some.injEq, Prod.mk.injEq] at hnames
      obtain ⟨rfl, rfl⟩ := hnames
      simp only [Bool.and_eq_true, decide_eq_true_eq] at hkeep
      refine ⟨_, hkeep.1, ?_, rfl⟩
      have hp := fs.named p (List.mem_map.2 ⟨(p, e), hentry, rfl⟩)
      rw [List.all_eq_true] at hp ⊢
      intro name hname
      exact hp name (List.mem_of_mem_drop hname)
    · cases hnames
  · cases hnames

theorem not_isFile_of_isDirectory {p : Path} (h : fs.isDirectory wd p = true) :
    fs.isFile wd p = false := by
  obtain ⟨q, permissions, hlocate, hdir⟩ := isDirectory_iff.1 h
  rw [← Bool.not_eq_true, isFile_iff]
  rintro ⟨q', contents, permissions', hlocate', hfile⟩
  rw [hlocate, Except.ok.injEq] at hlocate'
  rw [← hlocate', hdir] at hfile
  cases hfile

/-- **What a walk finds below a directory is named by names that lead from it to a regular
file.** -/
theorem findMatching_names {found : List Path} (hdir : fs.isDirectory wd base = true)
    (h : fs.findMatching wd base pattern = .ok found) {p : Path} (hp : p ∈ found) :
    ∃ names, names ≠ [] ∧ names.all isName = true ∧ p = (⟨[]⟩ : Path).extend names ∧
      fs.isFile wd (base.extend names) = true := by
  unfold findMatching at h
  split at h
  · cases h
  · cases h
  rename_i place _ _
  dsimp only at h
  cases hkept : fs.kept wd base pattern (⟨base, rootName base, fs.isDirectoryAt place⟩ ::
      (if fs.isDirectoryAt place then fs.walked base place else [])) with
  | error e => simp [hkept, bind, Except.bind] at h
  | ok kept =>
    simp only [hkept, bind, Except.bind, pure, Except.pure, Except.ok.injEq] at h
    subst h
    obtain ⟨r, hr, hfile, rfl⟩ := mem_kept hkept (mem_sortPaths.1 hp)
    rcases List.mem_cons.1 hr with rfl | hr
    · rw [not_isFile_of_isDirectory hdir] at hfile
      cases hfile
    · split at hr
      · obtain ⟨names, hne, hnames, hpath⟩ := mem_walked hr
        rw [hpath] at hfile ⊢
        exact ⟨names, hne, hnames, Path.relativeTo_extend base hnames, hfile⟩
      · cases hr

end FileSystem

/-! ## What a survey plans -/

/-- The path leads along names below the runtime directory. -/
def Path.IsPlace (p : Path) : Prop :=
  ∃ dst names, Path.Same dst runtimeDir ∧ names ≠ [] ∧ names.all isName = true ∧
    p = dst.extend names

/-- All places are below the runtime directory, all sources are regular files, and each place occurs
once. -/
structure Plan.Sound (fs : FileSystem) (wd : Location) (plan : Plan) : Prop where
  places : ∀ p ∈ plan.map (·.1), p.IsPlace
  sources : ∀ p ∈ plan.map (·.2), fs.isFile wd p = true
  sorted : plan.Sorted

namespace Plan.Sound

variable {fs : FileSystem} {wd : Location} {plan : Plan}

theorem insert (h : Plan.Sound fs wd plan) {dest source : Path} (hdest : dest.IsPlace)
    (hsource : fs.isFile wd source = true) : Plan.Sound fs wd (Plan.insert dest source plan) where
  places p hp := by
    obtain ⟨e, he, rfl⟩ := List.mem_map.1 hp
    rcases List.mem_cons.1 (mem_insert he).1 with heq | hmem
    · rw [heq]
      exact hdest
    · exact h.places _ hmem
  sources p hp := by
    obtain ⟨e, he, rfl⟩ := List.mem_map.1 hp
    rcases List.mem_cons.1 (mem_insert he).2 with heq | hmem
    · rw [heq]
      exact hsource
    · exact h.sources _ hmem
  sorted := h.sorted.insert

/-- No two entries of a plan have the same place. -/
theorem distinct (h : Plan.Sound fs wd plan) :
    (plan.map (·.1)).Pairwise fun p q => ¬Path.Same p q :=
  h.sorted.imp FileSystem.components_ne_of_before

end Plan.Sound

namespace Staging

variable {fs : FileSystem} {wd : Location} {options : ImportOptions} {settings : Settings}
  {rule : CopyRule} {rules : List CopyRule} {s s' : Survey} {events : List Event}

theorem surveyRule_sound (h : surveyRule fs wd options settings rule s = (.ok s', events))
    (hdst : Path.Same rule.dst runtimeDir) (hs : s.plan.Sound fs wd) : s'.plan.Sound fs wd := by
  unfold surveyRule at h
  split at h
  · cases h
    exact hs
  split at h
  · cases h
  dsimp only at h
  split at h
  · rename_i hdir
    split at h
    · cases h
    · rename_i found hfound
      cases h
      have hall := fun p => FileSystem.findMatching_names (p := p) hdir hfound
      clear hfound
      -- the plan grows file by file, and stays sound with each
      induction found generalizing s with
      | nil => exact hs
      | cons p found ih =>
        obtain ⟨names, hne, hnames, rfl, hfile⟩ := hall p List.mem_cons_self
        refine ih (s := ⟨_, s.filteredOut⟩) (hs.insert ?_ ?_)
          fun p hp => hall p (List.mem_cons_of_mem _ hp)
        · rw [Path.join_extend_nil _ hnames hne]
          exact ⟨rule.dst, names, hdst, hne, hnames, rfl⟩
        · rw [Path.join_extend_nil _ hnames hne]
          exact hfile
  · cases h
    exact hs

theorem surveyRules_sound (h : surveyRules fs wd options settings rules s = (.ok s', events))
    (hdst : ∀ rule ∈ rules, Path.Same rule.dst runtimeDir) (hs : s.plan.Sound fs wd) :
    s'.plan.Sound fs wd := by
  induction rules generalizing s events with
  | nil =>
    cases h
    exact hs
  | cons rule rules ih =>
    unfold surveyRules at h
    split at h
    · cases h
    · rename_i hrule
      dsimp only at h
      cases hrest : surveyRules fs wd options settings rules _ with
      | mk result more =>
        rw [hrest] at h
        cases h
        exact ih hrest (fun rule hmem => hdst rule (List.mem_cons_of_mem _ hmem))
          (surveyRule_sound hrule (hdst rule List.mem_cons_self) hs)

/-- **The plan of a survey is sound.** -/
theorem survey_sound (h : (survey fs wd options settings).1 = .ok s) : s.plan.Sound fs wd := by
  unfold survey at h
  split at h
  · cases h
  rename_i hforeign
  split at h
  · cases h
  have hdst : ∀ rule ∈ options.rules, Path.Same rule.dst runtimeDir := by
    intro rule hrule
    unfold Path.Same
    simpa using List.find?_eq_none.1 hforeign rule hrule
  cases hrules : surveyRules fs wd options settings options.rules ⟨[], []⟩ with
  | mk result events =>
    rw [hrules] at h
    cases h
    exact surveyRules_sound hrules hdst ⟨by simp, by simp, by simp [Plan.Sorted]⟩

end Staging

end ConsumerCheck
