import ConsumerCheck.Proofs.Staging.Order
import Mathlib.Data.Prod.Basic

/-!
# Rules that stand twice

Where the last rules of a list stand once more behind it, they find the same files again and plan them for the
places that they have planned already. In between a file of an earlier rule can take its place again, but the
last rule for each place is the same as before.

* `Sorted.eq_of_source?` — a plan that is in order is known by its places and the source of each;
* `surveyRules_again` — the same rules once more plan the same.

Principal result: `stage_repeated` — rules that stand twice are staged as if they stood once.
-/

namespace ConsumerCheck

namespace Plan

variable {plan plan' : Plan} {dest source : Path}

/-- A file that is planned for a place that has one already leaves the places as they are spelled. -/
theorem places_insert (h : Sorted plan) (hplace : ∃ p ∈ plan.map (·.1), Path.Same p dest) :
    (Plan.insert dest source plan).map (·.1) = plan.map (·.1) := by
  induction plan with
  | nil => simp at hplace
  | cons head rest ih =>
    obtain ⟨d, s⟩ := head
    unfold Sorted at h
    rw [List.map_cons, List.pairwise_cons] at h
    unfold Plan.insert
    split
    · rfl
    rename_i hne
    obtain ⟨p, hp, hsame⟩ := hplace
    rcases List.mem_cons.1 hp with rfl | hp
    · exact absurd hsame hne
    split
    · -- the place is behind the head, and would be put in front of it
      rename_i hbefore
      have hkey : p.key = dest.key := congrArg (List.map Path.Component.key) hsame
      have hbehind : FileSystem.before d dest = true :=
        FileSystem.before_iff.2 (hkey ▸ FileSystem.before_iff.1 (h.1 p hp))
      exact absurd rfl (FileSystem.components_ne_of_before (FileSystem.before_trans hbehind hbefore))
    · rw [List.map_cons, ih h.2 ⟨p, hp, hsame⟩, List.map_cons]

/-- A plan that is in order is known by its places and the source of each. -/
theorem Sorted.eq_of_source? (h : Sorted plan) (hplaces : plan'.map (·.1) = plan.map (·.1))
    (hsource : ∀ place, plan'.source? place = plan.source? place) : plan' = plan := by
  have h' : Sorted plan' := by
    rw [Sorted, hplaces]
    exact h
  have hread {plan : Plan} (h : Sorted plan) :
      plan.map (Prod.map id some) = (plan.map (·.1)).map fun p => (p, plan.source? p) := by
    rw [List.map_map]
    exact List.map_congr_left fun e he => Prod.ext rfl (h.source?_eq he).symm
  have hmap : plan'.map (Prod.map id some) = plan.map (Prod.map id some) := by
    rw [hread h', hread h, hplaces]
    exact List.map_congr_left fun p _ => Prod.ext rfl (hsource p)
  exact List.map_injective_iff.2
    (Function.injective_id.prodMap fun _ _ => Option.some.inj) hmap

end Plan

namespace Staging

variable {fs : FileSystem} {wd : Location} {options : ImportOptions} {settings : Settings}
  {rules : List CopyRule} {s s' : Survey} {events : List Event}

/-! ## The same rules once more -/

/-- A rule that has a file for a place has planned it. -/
theorem places_of_finds (h : surveyRules fs wd options settings rules s = (.ok s', events))
    {rule : CopyRule} (hrule : rule ∈ rules) {rel : Path}
    (hfinds : Finds fs wd options settings rule rel) :
    ∃ p ∈ s'.plan.map (·.1), Path.Same p (rule.dst.join rel) := by
  rw [Plan.mem_places_iff]
  rcases surveyRules_source? h (rule.dst.join rel) with ⟨source, -, hsource⟩ | ⟨hnone, -⟩
  · exact ⟨source, hsource⟩
  · exact absurd ⟨rel, hfinds, rfl, rfl⟩ (hnone rule hrule _)

theorem surveyRules_sorted (h : surveyRules fs wd options settings rules s = (.ok s', events))
    (hs : s.plan.Sorted) : s'.plan.Sorted :=
  surveyRules_induction h hs fun _ _ _ _ _ hplan => hplan.insert

/-- **The same rules once more plan the same.** -/
theorem surveyRules_again (hs : s.plan.Sorted)
    (h : surveyRules fs wd options settings rules s = (.ok s', events)) :
    ∃ again, (surveyRules fs wd options settings rules s').1 = .ok again ∧ again.plan = s'.plan := by
  have hsorted := surveyRules_sorted h hs
  obtain ⟨again, hagain⟩ : ∃ again, (surveyRules fs wd options settings rules s').1 = .ok again :=
    surveyRules_ok_iff.2 (surveyRules_ok_iff.1 ⟨s', by rw [h]⟩)
  have hrun : surveyRules fs wd options settings rules s' = (.ok again, _) := Prod.ext hagain rfl
  refine ⟨again, hagain, hsorted.eq_of_source? ?_ fun place => ?_⟩
  · -- every file goes to a place that is planned
    refine (surveyRules_induction
      (motive := fun plan => plan.Sorted ∧ plan.map (·.1) = s'.plan.map (·.1)) hrun
      ⟨hsorted, rfl⟩ ?_).2
    rintro rule hrule rel plan hfinds ⟨hplan, hplaces⟩
    refine ⟨hplan.insert, (Plan.places_insert hplan ?_).trans hplaces⟩
    rw [hplaces]
    exact places_of_finds h hrule hfinds
  · -- the last rule that has a file for a place is the same both times
    rcases surveyRules_source? hrun place with ⟨source, hlast, hsource⟩ | ⟨-, hsource⟩
    · rcases surveyRules_source? h place with ⟨source', hlast', hsource'⟩ | ⟨hnone, -⟩
      · rw [hsource, hsource', hlast.unique hlast']
      · obtain ⟨front, rule, back, rfl, hsupplies, -⟩ := hlast
        exact absurd hsupplies (hnone rule List.mem_append_cons_self source)
    · exact hsource

/-! ## Rules behind others -/

/-- The last rules of a list once more behind it plan the same, or fail for the same reason. -/
theorem surveyRules_repeated (hs : s.plan.Sorted) (front rules : List CopyRule) :
    (surveyRules fs wd options settings (front ++ rules ++ rules) s).1.map Survey.plan =
      (surveyRules fs wd options settings (front ++ rules) s).1.map Survey.plan := by
  rw [surveyRules_append (front ++ rules), surveyRules_append]
  rcases hfront : surveyRules fs wd options settings front s with ⟨_ | between, events⟩
  · rfl
  dsimp only [Except.bind]
  rcases hrules : surveyRules fs wd options settings rules between with ⟨_ | last, events'⟩
  · rfl
  obtain ⟨again, hagain, hplan⟩ := surveyRules_again (surveyRules_sorted hfront hs) hrules
  dsimp only
  rw [hagain]
  exact congrArg Except.ok hplan

/-- Which rules the options have plays no part in what the rules at hand find. -/
theorem surveyRules_withRules (listed rules : List CopyRule) (s : Survey) :
    surveyRules fs wd { options with rules := listed } settings rules s =
      surveyRules fs wd options settings rules s := by
  induction rules generalizing s with
  | nil => rfl
  | cons rule rules ih =>
    have hrule : surveyRule fs wd { options with rules := listed } settings rule s =
        surveyRule fs wd options settings rule s := rfl
    simp only [surveyRules, hrule, ih]

/-! ## Rules that stand twice -/

/-- The same options, with some rules once more behind the others. -/
def repeating (options : ImportOptions) (rules : List CopyRule) : ImportOptions :=
  { options with rules := options.rules ++ rules }

theorem foreignRule?_repeating (h : rules <:+ options.rules) :
    foreignRule? (repeating options rules).rules = foreignRule? options.rules := by
  obtain ⟨front, hrules⟩ := h
  rw [repeating, ← hrules]
  unfold foreignRule?
  simp only [List.find?_append]
  cases front.find? _ <;> cases rules.find? _ <;> rfl

/-- The last rules of a list once more behind it change nothing about the plan, and nothing about why there is
none. -/
theorem survey_repeating (h : rules <:+ options.rules) :
    (survey fs wd (repeating options rules) settings).1.map Survey.plan =
      (survey fs wd options settings).1.map Survey.plan := by
  unfold survey
  rw [foreignRule?_repeating h]
  cases foreignRule? options.rules with
  | some rule => rfl
  | none =>
    dsimp only [repeating]
    cases fs.checkReadableDirectory wd options.packageFolder with
    | error e => rfl
    | ok u =>
      obtain ⟨front, hrules⟩ := h
      have hnothing : (⟨[], []⟩ : Survey).plan.Sorted := .nil
      dsimp only
      rw [surveyRules_withRules, ← hrules]
      exact surveyRules_repeated hnothing front rules

/-- Staging to one place is decided by the plan of the first phase, or by why there is none. -/
theorem stage_eq_of_plan {options' : ImportOptions} (hroot : options'.destRoot = options.destRoot)
    (h : (survey fs wd options' settings).1.map Survey.plan =
      (survey fs wd options settings).1.map Survey.plan) :
    (stage fs wd options' settings).1.map (·.copied) =
        (stage fs wd options settings).1.map (·.copied) ∧
      (stage fs wd options' settings).2.1 = (stage fs wd options settings).2.1 := by
  cases hs : (survey fs wd options settings).1 with
  | error f =>
    cases hs' : (survey fs wd options' settings).1 with
    | error f' =>
      simp only [hs, hs', Except.map, Except.error.injEq] at h
      obtain ⟨hresult, hfiles⟩ := stage_of_survey_error hs
      obtain ⟨hresult', hfiles'⟩ := stage_of_survey_error hs'
      rw [hresult, hresult', hfiles, hfiles', h]
      exact ⟨rfl, rfl⟩
    | ok s' => simp [hs, hs', Except.map] at h
  | ok s =>
    cases hs' : (survey fs wd options' settings).1 with
    | error f' => simp [hs, hs', Except.map] at h
    | ok s' =>
      simp only [hs, hs', Except.map, Except.ok.injEq] at h
      obtain ⟨hresult, hfiles⟩ := stage_of_survey hs
      obtain ⟨hresult', hfiles'⟩ := stage_of_survey hs'
      rw [hresult, hresult', hfiles, hfiles', hroot, h]
      refine ⟨?_, rfl⟩
      cases (carryOut wd options.destRoot s.plan fs).1 <;> rfl

/-- **Rules that stand twice are staged as if they stood once**: with the same outcome, the same report of what
was copied, and the same files afterwards. -/
theorem stage_repeated (fs : FileSystem) (wd : Location) (settings : Settings)
    (h : rules <:+ options.rules) :
    (stage fs wd (repeating options rules) settings).1.map (·.copied) =
        (stage fs wd options settings).1.map (·.copied) ∧
      (stage fs wd (repeating options rules) settings).2.1 = (stage fs wd options settings).2.1 :=
  stage_eq_of_plan rfl (survey_repeating h)

end Staging

end ConsumerCheck
