import ConsumerCheck.Proofs.FileSystem.Probes
import ConsumerCheck.Proofs.Staging.Plan
import Mathlib.Data.List.Nodup
import Mathlib.Data.List.Perm.Basic

/-!
# What a walk looks at

A walk from a directory looks at the way to it, at all that stands below it, and over each entry there
that it asks for. Two file systems that hold the same at these locations give the same matches; the order
in which a file system keeps its entries plays no part.

* `FileSystem.mem_below` — what a walk reaches, by the entries at the locations alone;
* `FileSystem.kept_ok_iff` — what is kept of it.

Principal results: `sortPaths_eq_of_perm` — paths come out in one order, however they were found;
`findMatching_congr` — a walk finds the same where the same stands at all that it looks at.
-/

namespace ConsumerCheck.FileSystem

variable {fs fs' : FileSystem} {wd place q : Location} {names : List Bytes} {entry : Entry}
  {base p : Path} {ps qs found : List Path} {pattern : Pattern}

/-! ## What is below a location -/

theorem mem_entries_iff (hne : q ≠ []) : (q, entry) ∈ fs.entries ↔ fs.get? q = some entry := by
  rw [get?, if_neg hne]
  exact mem_iff_lookup_eq_some fs.nodup

/-- A walk reaches what stands below its beginning, at the end of a way through directories. -/
theorem mem_below : (names, entry) ∈ fs.below place ↔
    names ≠ [] ∧ fs.get? (place ++ names) = some entry ∧ fs.descends place names = true := by
  unfold below
  simp only [List.mem_filterMap, Prod.exists]
  constructor
  · rintro ⟨q, e, hmem, hkeep⟩
    split at hkeep
    · rename_i hprefix
      obtain ⟨tail, rfl⟩ := List.isPrefixOf_iff_prefix.1 hprefix
      simp only [List.drop_left] at hkeep
      split at hkeep
      · rename_i hcond
        simp only [Option.some.injEq, Prod.mk.injEq] at hkeep
        obtain ⟨rfl, rfl⟩ := hkeep
        simp only [Bool.and_eq_true, decide_eq_true_eq] at hcond
        exact ⟨hcond.1, (mem_entries_iff (List.append_ne_nil_of_right_ne_nil _ hcond.1)).1 hmem, hcond.2⟩
      · cases hkeep
    · cases hkeep
  · rintro ⟨hne, he, hdescends⟩
    refine ⟨place ++ names, entry,
      (mem_entries_iff (List.append_ne_nil_of_right_ne_nil _ hne)).2 he, ?_⟩
    rw [if_pos (List.isPrefixOf_iff_prefix.2 (List.prefix_append _ _))]
    simp [hne, hdescends]

theorem nodup_below (fs : FileSystem) (place : Location) : ((fs.below place).map (·.1)).Nodup := by
  have hentries : (fs.entries.map (·.1)).Nodup := fs.nodup
  unfold below
  rw [List.map_filterMap]
  rw [List.Nodup, List.pairwise_map] at hentries
  rw [List.Nodup, List.pairwise_filterMap]
  refine hentries.imp ?_
  intro a b hne names hnames names' hnames' heq
  apply hne
  -- both locations are the names behind the same beginning
  have hlocation : ∀ {e : Location × Entry} {ns : List Bytes},
      Option.map (·.1) (if place.isPrefixOf e.1 then
        if e.1.drop place.length ≠ [] && fs.descends place (e.1.drop place.length) then
          some (e.1.drop place.length, e.2) else none
      else none) = some ns → e.1 = place ++ ns := by
    intro e ns h
    split at h
    · rename_i hprefix
      obtain ⟨tail, htail⟩ := List.isPrefixOf_iff_prefix.1 hprefix
      rw [← htail, List.drop_left] at h
      split at h
      · cases h
        exact htail.symm
      · cases h
    · cases h
  rw [hlocation hnames, hlocation hnames', heq]

theorem descends_congr (h : ∀ q, place <+: q → fs'.get? q = fs.get? q) (names : List Bytes) :
    fs'.descends place names = fs.descends place names := by
  induction names generalizing place with
  | nil => rfl
  | cons name names ih =>
    cases names with
    | nil => rfl
    | cons next rest =>
      have hnext : place <+: place ++ [name] := List.prefix_append _ _
      have hrest := ih fun q hq => h q (hnext.trans hq)
      simp only [descends, isDirectoryAt, h _ hnext] at hrest ⊢
      rw [hrest]

/-- A walk reaches the same where the same stands below its beginning. -/
theorem below_perm (h : ∀ q, place <+: q → fs'.get? q = fs.get? q) :
    (fs'.below place).Perm (fs.below place) := by
  rw [List.perm_ext_iff_of_nodup (nodup_below fs' place).of_map (nodup_below fs place).of_map]
  rintro ⟨names, entry⟩
  rw [mem_below, mem_below, h _ (List.prefix_append _ _), descends_congr h]

/-! ## The order of what is found -/

theorem insertSorted_perm (p : Path) (ps : List Path) : (insertSorted p ps).Perm (p :: ps) := by
  induction ps with
  | nil => exact .refl _
  | cons q rest ih =>
    unfold insertSorted
    split
    · exact .refl _
    · exact (ih.cons q).trans (.swap p q rest)

theorem sortPaths_perm (ps : List Path) : (sortPaths ps).Perm ps := by
  have hfold : ∀ sorted : List Path,
      (ps.foldl (fun sorted p => insertSorted p sorted) sorted).Perm (ps ++ sorted) := by
    induction ps with
    | nil => exact fun sorted => .refl _
    | cons p ps ih =>
      intro sorted
      exact (ih _).trans (((insertSorted_perm p sorted).append_left ps).trans List.perm_middle)
  have hnil := hfold []
  rwa [List.append_nil] at hnil

theorem insertSorted_sorted (hps : ps.Pairwise fun a b => before a b = true)
    (hne : ∀ q ∈ ps, p.components ≠ q.components) :
    (insertSorted p ps).Pairwise fun a b => before a b = true := by
  induction ps with
  | nil => exact List.pairwise_singleton _ _
  | cons q rest ih =>
    obtain ⟨hq, hrest⟩ := List.pairwise_cons.1 hps
    unfold insertSorted
    split
    · rename_i hbefore
      refine List.pairwise_cons.2 ⟨?_, hps⟩
      intro r hr
      rcases List.mem_cons.1 hr with rfl | hr
      · exact hbefore
      · exact before_trans hbefore (hq r hr)
    · rename_i hbefore
      refine List.pairwise_cons.2 ⟨?_, ih hrest fun r hr => hne r (List.mem_cons_of_mem _ hr)⟩
      intro r hr
      rcases mem_insertSorted.1 hr with rfl | hr
      · exact before_of_not_before (hne q List.mem_cons_self) hbefore
      · exact hq r hr

theorem sortPaths_sorted (h : ps.Pairwise fun a b => a.components ≠ b.components) :
    (sortPaths ps).Pairwise fun a b => before a b = true := by
  have hfold : ∀ sorted : List Path, sorted.Pairwise (fun a b => before a b = true) →
      (∀ p ∈ ps, ∀ q ∈ sorted, p.components ≠ q.components) →
      (ps.foldl (fun sorted p => insertSorted p sorted) sorted).Pairwise
        fun a b => before a b = true := by
    induction ps with
    | nil => exact fun sorted hsorted _ => hsorted
    | cons p ps ih =>
      intro sorted hsorted hne
      obtain ⟨hp, hps⟩ := List.pairwise_cons.1 h
      refine ih hps _ (insertSorted_sorted hsorted (hne p List.mem_cons_self)) ?_
      intro r hr q hq
      rcases mem_insertSorted.1 hq with rfl | hq
      · exact (hp r hr).symm
      · exact hne r (List.mem_cons_of_mem _ hr) q hq
  exact hfold [] .nil (by simp)

/-- **Paths that are all different come out in one order, however they were found.** -/
theorem sortPaths_eq_of_perm (hperm : ps.Perm qs)
    (h : ps.Pairwise fun a b => a.components ≠ b.components) : sortPaths ps = sortPaths qs := by
  have hqs : qs.Pairwise fun a b => a.components ≠ b.components :=
    hperm.pairwise h fun hab => hab.symm
  refine List.Perm.eq_of_pairwise ?_ (sortPaths_sorted h) (sortPaths_sorted hqs)
    ((sortPaths_perm ps).trans (hperm.trans (sortPaths_perm qs).symm))
  intro a b _ _ hab hba
  exact absurd rfl (components_ne_of_before (before_trans hab hba))

/-! ## What is kept -/

/-- The names in what was reached can be read, if it is a directory. -/
def Reached.Readable (fs : FileSystem) (wd : Location) (r : Reached) : Prop :=
  r.isDirectory = true → fs.checkReadableDirectory wd r.path = .ok ()

theorem kept_cons_ok_iff {r : Reached} {rest : List Reached} :
    fs.kept wd base pattern (r :: rest) = .ok found ↔
      r.Readable fs wd ∧ ∃ others, fs.kept wd base pattern rest = .ok others ∧
        found = if fs.isFile wd r.path && nameMatches pattern r.name then
          base.relativeTo r.path :: others else others := by
  have hread : r.Readable fs wd ↔
      (if r.isDirectory then fs.checkReadableDirectory wd r.path else .ok ()) = .ok () := by
    unfold Reached.Readable
    cases r.isDirectory <;> simp
  rw [hread, kept]
  cases if r.isDirectory then fs.checkReadableDirectory wd r.path else .ok () with
  | error e => simp
  | ok u =>
    cases fs.kept wd base pattern rest with
    | error e => simp [bind, Except.bind]
    | ok others =>
      simp only [bind, Except.bind, pure, Except.pure, Except.ok.injEq, true_and, exists_eq_left']
      exact eq_comm

/-- What a walk keeps, where all directories can be read: the regular files with names that match. -/
theorem kept_ok_iff {reached : List Reached} : fs.kept wd base pattern reached = .ok found ↔
    (∀ r ∈ reached, r.Readable fs wd) ∧
      found = (reached.filter fun r => fs.isFile wd r.path && nameMatches pattern r.name).map
        fun r => base.relativeTo r.path := by
  induction reached generalizing found with
  | nil =>
    simp only [kept, Except.ok.injEq, List.not_mem_nil, false_implies, implies_true, true_and]
    exact eq_comm
  | cons r rest ih =>
    simp only [kept_cons_ok_iff, ih, List.forall_mem_cons, List.filter_cons, and_assoc]
    split <;> simp

/-- All that a walk from the beginning `base`, which is at `place`, asks for. -/
def reached (fs : FileSystem) (base : Path) (place : Location) : List Reached :=
  ⟨base, rootName base, fs.isDirectoryAt place⟩ ::
    if fs.isDirectoryAt place then fs.walked base place else []

theorem findMatching_ok_iff : fs.findMatching wd base pattern = .ok found ↔
    ∃ link place, fs.locateLink wd base = .ok link ∧ fs.locate wd base = .ok place ∧
      (∀ r ∈ fs.reached base place, r.Readable fs wd) ∧
      found = sortPaths (((fs.reached base place).filter fun r =>
        fs.isFile wd r.path && nameMatches pattern r.name).map fun r => base.relativeTo r.path) := by
  unfold findMatching
  cases fs.locateLink wd base with
  | error e => simp
  | ok link =>
    cases fs.locate wd base with
    | error e => simp
    | ok place =>
      simp only [Except.ok.injEq, exists_and_left, exists_eq_left']
      change (fs.kept wd base pattern (fs.reached base place) >>= _) = _ ↔ _
      cases hkept : fs.kept wd base pattern (fs.reached base place) with
      | error e =>
        have hnot : ¬∀ r ∈ fs.reached base place, r.Readable fs wd := by
          intro hread
          rw [kept_ok_iff.2 ⟨hread, rfl⟩] at hkept
          cases hkept
        simp [bind, Except.bind, hnot]
      | ok paths =>
        obtain ⟨hread, rfl⟩ := kept_ok_iff.1 hkept
        simp only [bind, Except.bind, pure, Except.pure, Except.ok.injEq]
        exact ⟨fun h => ⟨hread, h.symm⟩, fun h => h.2.symm⟩

theorem names_of_mem_below (h : (names, entry) ∈ fs.below place) : names.all isName = true := by
  have hnamed := named_of_get? (mem_below.1 h).2.1
  rw [List.all_append, Bool.and_eq_true] at hnamed
  exact hnamed.2

/-- What a walk reaches below its beginning is all different. -/
theorem walked_distinct (fs : FileSystem) (base : Path) (place : Location) :
    ((fs.walked base place).map fun r => base.relativeTo r.path).Pairwise
      fun a b => a.components ≠ b.components := by
  have hnodup := nodup_below fs place
  rw [List.Nodup, List.pairwise_map] at hnodup
  rw [walked, List.map_map, List.pairwise_map]
  refine hnodup.imp_of_mem ?_
  intro a b ha hb hne heq
  have hnames := names_of_mem_below ha
  have hnames' := names_of_mem_below hb
  change (base.relativeTo (base.extend a.1)).components =
    (base.relativeTo (base.extend b.1)).components at heq
  rw [Path.relativeTo_extend base hnames, Path.relativeTo_extend base hnames'] at heq
  exact hne (Path.extend_injective _ hnames hnames' heq)

/-- The files that a walk comes to are all different: its beginning is no file if anything is below
it. -/
theorem files_distinct (hplace : fs.locate wd base = .ok place) (keep : Reached → Bool)
    (hkeep : ∀ r, keep r = true → fs.isFile wd r.path = true) :
    (((fs.reached base place).filter keep).map fun r => base.relativeTo r.path).Pairwise
      fun a b => a.components ≠ b.components := by
  unfold reached
  by_cases hdir : fs.isDirectoryAt place = true
  · have hbase : keep ⟨base, rootName base, fs.isDirectoryAt place⟩ = false := by
      rw [← Bool.not_eq_true]
      intro hk
      have hfile := hkeep _ hk
      have hisdir : fs.isDirectory wd base = true := by
        obtain ⟨e, he, hedir⟩ := (Option.any_eq_true _ _).1 hdir
        exact (any_stat_iff Entry.isDirectory).2 ⟨place, e, hplace, he, hedir⟩
      rw [not_isFile_of_isDirectory hisdir] at hfile
      cases hfile
    rw [List.filter_cons, hbase, if_pos hdir]
    exact (walked_distinct fs base place).sublist (List.filter_sublist.map _)
  · rw [if_neg hdir, List.filter_cons]
    split <;> simp

/-- What a walk finds below a directory is an entry that it reaches there, a way over it leads to a
regular file, and its name matches. -/
theorem findMatching_below (hdir : fs.isDirectory wd base = true)
    (h : fs.findMatching wd base pattern = .ok found) (hp : p ∈ found) :
    ∃ place, fs.locate wd base = .ok place ∧ ∃ e ∈ fs.below place,
      p = (⟨[]⟩ : Path).extend e.1 ∧ fs.isFile wd (base.extend e.1) = true ∧
        nameMatches pattern (e.1.getLastD []) = true := by
  obtain ⟨link, place, -, hplace, -, rfl⟩ := findMatching_ok_iff.1 h
  obtain ⟨r, hr, rfl⟩ := List.mem_map.1 (mem_sortPaths.1 hp)
  rw [List.mem_filter, Bool.and_eq_true] at hr
  obtain ⟨hreached, hfile, hname⟩ := hr
  rcases List.mem_cons.1 hreached with rfl | hreached
  · rw [not_isFile_of_isDirectory hdir] at hfile
    cases hfile
  · split at hreached
    · obtain ⟨e, he, rfl⟩ := List.mem_map.1 hreached
      exact ⟨place, hplace, e, he, Path.relativeTo_extend base (names_of_mem_below he), hfile, hname⟩
    · cases hreached

/-- **A walk finds the same where the same stands on the way to it, at all below it and on the ways over
what it reaches.** -/
theorem findMatching_congr (hbase : ∀ q ∈ fs.probes wd base, fs'.get? q = fs.get? q)
    (htree : ∀ place, fs.locate wd base = .ok place → ∀ q, place <+: q → fs'.get? q = fs.get? q)
    (hentries : ∀ place, fs.locate wd base = .ok place → ∀ e ∈ fs.below place,
      ∀ q ∈ fs.probes wd (base.extend e.1), fs'.get? q = fs.get? q)
    (h : fs.findMatching wd base pattern = .ok found) :
    fs'.findMatching wd base pattern = .ok found := by
  obtain ⟨link, place, hlink, hplace, hread, rfl⟩ := findMatching_ok_iff.1 h
  have htree := htree place hplace
  have hdir : fs'.isDirectoryAt place = fs.isDirectoryAt place := by
    rw [isDirectoryAt, isDirectoryAt, htree place (List.prefix_refl _)]
  have hperm : (fs'.reached base place).Perm (fs.reached base place) := by
    unfold reached
    rw [hdir]
    refine .cons _ ?_
    split
    · exact (below_perm htree).map _
    · exact .refl _
  have hprobes : ∀ r ∈ fs.reached base place, ∀ q ∈ fs.probes wd r.path,
      fs'.get? q = fs.get? q := by
    intro r hr
    rcases List.mem_cons.1 hr with rfl | hr
    · exact hbase
    · split at hr
      · obtain ⟨e, he, rfl⟩ := List.mem_map.1 hr
        exact hentries place hplace e he
      · cases hr
  rw [findMatching_ok_iff]
  refine ⟨link, place, (locateLink_congr hbase).trans hlink, (locate_congr hbase).trans hplace, ?_, ?_⟩
  · intro r hr
    have hr := hperm.mem_iff.1 hr
    intro hd
    exact (checkReadableDirectory_congr (hprobes r hr)).trans (hread r hr hd)
  · have hfilter : (fs'.reached base place).filter (fun r =>
        fs'.isFile wd r.path && nameMatches pattern r.name) =
        (fs'.reached base place).filter fun r =>
          fs.isFile wd r.path && nameMatches pattern r.name := by
      refine List.filter_congr fun r hr => ?_
      rw [isFile_congr (hprobes r (hperm.mem_iff.1 hr))]
    rw [hfilter]
    refine sortPaths_eq_of_perm ((hperm.filter _).map _).symm (files_distinct hplace _ ?_)
    intro r hr
    rw [Bool.and_eq_true] at hr
    exact hr.1

end ConsumerCheck.FileSystem
