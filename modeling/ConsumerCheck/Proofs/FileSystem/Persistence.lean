import ConsumerCheck.Proofs.FileSystem.Sharing

/-!
# What was made is found again

A directory that was made is there when it is asked for again, and a destination that was written
to is the destination of the next write. So an operation that succeeded once finds, the second time,
what it has made.

* `Step.Proper` — a step that is no name, or a name that a directory could hold.

Principal results: `walk_missing_named` — a path leads to no entry only where one could be made;
`makeDirectories_of_isDirectory` — to make a directory that exists is to do nothing; `target_again` —
where a path was written to, it can be written to again; `copyTo_of_target` — what a copy to a path
replaces.
-/

namespace ConsumerCheck

/-! ## Names on a path -/

theorem Path.of_mem_splitAt {separator : UInt8} {bs piece : Bytes}
    (h : piece ∈ splitAt separator bs) : separator ∉ piece ∧ ∀ b ∈ piece, b ∈ bs := by
  induction bs generalizing piece with
  | nil =>
    rw [splitAt, List.mem_singleton] at h
    simp [h]
  | cons b rest ih =>
    by_cases hb : b = separator
    · rw [splitAt, if_pos hb] at h
      rcases List.mem_cons.1 h with rfl | h
      · simp
      · exact ⟨(ih h).1, fun x hx => List.mem_cons_of_mem _ ((ih h).2 x hx)⟩
    · rw [splitAt, if_neg hb] at h
      cases hs : splitAt separator rest with
      | nil => exact absurd hs (splitAt_ne_nil separator rest)
      | cons first pieces =>
        simp only [hs] at h ih
        rcases List.mem_cons.1 h with rfl | h
        · obtain ⟨hnot, hsub⟩ := ih List.mem_cons_self
          refine ⟨?_, ?_⟩
          · rw [List.mem_cons, not_or]
            exact ⟨Ne.symm hb, hnot⟩
          · intro x hx
            rcases List.mem_cons.1 hx with rfl | hx
            · exact List.mem_cons_self
            · exact List.mem_cons_of_mem _ (hsub x hx)
        · obtain ⟨hnot, hsub⟩ := ih (List.mem_cons_of_mem _ h)
          exact ⟨hnot, fun x hx => List.mem_cons_of_mem _ (hsub x hx)⟩

theorem Path.of_mem_pieces {p : Path} {piece : Bytes} (h : piece ∈ p.pieces) :
    slash ∉ piece ∧ ∀ b ∈ piece, b ∈ p.octets := by
  unfold pieces at h
  split at h
  · rename_i b rest _ hoctets
    obtain ⟨hnot, hsub⟩ := of_mem_splitAt h
    refine ⟨hnot, fun x hx => ?_⟩
    rw [hoctets]
    exact List.mem_cons_of_mem _ (hsub x hx)
  · exact of_mem_splitAt h

/-- A name among the steps could be the name of an entry, but for its length. -/
def Step.Proper : Step → Prop
  | .name n => n ≠ [] ∧ n ≠ Path.dot ∧ n ≠ Path.dotDot ∧ Path.slash ∉ n ∧ 0 ∉ n
  | _ => True

theorem Path.proper_of_mem_steps {p : Path} (h : 0 ∉ p.octets) {step : Step}
    (hstep : step ∈ p.steps) : step.Proper := by
  cases step with
  | here => trivial
  | parent => trivial
  | slash => trivial
  | name n =>
    rw [steps_eq, List.mem_append] at hstep
    rcases hstep with hstep | hstep
    · obtain ⟨piece, hpiece, hn⟩ := List.mem_filterMap.1 hstep
      obtain ⟨hslash, hsub⟩ := of_mem_pieces hpiece
      unfold stepOf at hn
      split at hn
      · cases hn
      split at hn
      · cases hn
      split at hn
      · cases hn
      rename_i hnil hdot hdots
      cases hn
      exact ⟨hnil, hdot, hdots, hslash, fun hzero => h (hsub 0 hzero)⟩
    · split at hstep
      · simp at hstep
      · cases hstep

namespace FileSystem

variable {fs fs' : FileSystem} {ending : Ending} {wd place q dir : Location} {links : Nat}
  {steps rest : List Step} {n : Bytes} {slash : Bool} {w : Walked} {p : Path}

/-- Where steps lead to no entry, one could be made. -/
theorem Advanced.missing_named (h : Advanced fs ending place steps (.missing dir n slash))
    (hend : ending = .created → slash = false) (hproper : ∀ s ∈ steps, s.Proper) :
    (dir ++ [n]).all isName = true := by
  have hname : ∀ {place : Location} {m : Permissions} {n : Bytes},
      fs.get? place = some (.directory m) → n.length ≤ maxName → (Step.name n).Proper →
      (place ++ [n]).all isName = true := by
    intro place m n hdir hlen hn
    obtain ⟨hnil, hdot, hdots, hslash, hzero⟩ := hn
    rw [List.all_append, named_of_get? hdir]
    simpa using isName_iff.2 ⟨hnil, hdot, hdots, hlen, hslash, hzero⟩
  have htail := fun {s : Step} {rest : List Step} (h : ∀ t ∈ s :: rest, t.Proper) =>
    fun t ht => h t (List.mem_cons_of_mem s ht)
  generalize hw : Walked.missing dir n slash = w at h
  induction h with
  | done => cases hw
  | slash _ _ ih => exact ih (htail hproper) hw
  | here _ _ _ ih => exact ih (htail hproper) hw
  | parent _ _ _ ih => exact ih (htail hproper) hw
  | name _ _ _ _ _ _ _ ih => exact ih (htail hproper) hw
  | link _ _ _ _ _ _ => cases hw
  | itself _ _ _ _ _ => cases hw
  | missing hdir _ hlen _ =>
    cases hw
    exact hname hdir hlen (hproper _ List.mem_cons_self)
  | missingSlash hdir _ _ hlen _ =>
    cases hw
    exact hname hdir hlen (hproper _ List.mem_cons_self)
  | createdSlash _ _ hcreated =>
    cases hw
    exact absurd (hend hcreated) (by simp)

/-- The steps after a link and those of its target are proper. -/
theorem Advanced.link_proper {t : Path} (hfs : fs.Consistent)
    (h : Advanced fs ending place steps (.link dir t rest)) (hproper : ∀ s ∈ steps, s.Proper) :
    ∀ s ∈ t.steps ++ rest, s.Proper := by
  have htail := fun {s : Step} {rest : List Step} (h : ∀ t ∈ s :: rest, t.Proper) =>
    fun t ht => h t (List.mem_cons_of_mem s ht)
  generalize hw : Walked.link dir t rest = w at h
  induction h with
  | done => cases hw
  | slash _ _ ih => exact ih (htail hproper) hw
  | here _ _ _ ih => exact ih (htail hproper) hw
  | parent _ _ _ ih => exact ih (htail hproper) hw
  | name _ _ _ _ _ _ _ ih => exact ih (htail hproper) hw
  | link _ _ _ _ hentry _ =>
    cases hw
    intro s hs
    rcases List.mem_append.1 hs with hs | hs
    · exact Path.proper_of_mem_steps (hfs.targets _ _ hentry) hs
    · exact htail hproper s hs
  | itself _ _ _ _ _ => cases hw
  | missing _ _ _ _ => cases hw
  | missingSlash _ _ _ _ _ => cases hw
  | createdSlash _ _ _ => cases hw

theorem Followed.missing_named (hfs : fs.Consistent)
    (h : Followed fs ending links place steps (.missing dir n slash))
    (hend : ending = .created → slash = false) (hproper : ∀ s ∈ steps, s.Proper) :
    (dir ++ [n]).all isName = true := by
  generalize hw : Walked.missing dir n slash = w at h
  induction h with
  | done h _ =>
    subst hw
    exact h.missing_named hend hproper
  | across h _ ih => exact ih (h.link_proper hfs hproper) hw

/-- **Where a path leads to no entry, one could be made.** -/
theorem walk_missing_named (hfs : fs.Consistent)
    (h : fs.walk wd ending p = .ok (.missing dir n slash))
    (hend : ending = .created → slash = false) : (dir ++ [n]).all isName = true := by
  obtain ⟨ht, hf, -⟩ := walk_ok_iff.1 h
  exact (Followed.of_follow hf (by simp)).missing_named hfs hend fun s hs =>
    Path.proper_of_mem_steps ht.1 hs

/-! ## Directories -/

/-- A directory that was made is there. -/
theorem isDirectory_of_makeDirectory {permissions : Permissions} (hfs : fs.Consistent)
    (h : fs.makeDirectory wd permissions p = .ok fs') : fs'.isDirectory wd p = true := by
  obtain ⟨q, -, hput, hlocate⟩ := makeDirectory_spec h
  obtain ⟨-, dir, n, slash, hwalk, -, rfl⟩ := makeDirectory_ok_iff.1 h
  have hnamed := walk_missing_named hfs hwalk (by simp)
  obtain ⟨-, hf, -⟩ := walk_ok_iff.1 hwalk
  have hnone := (Followed.of_follow hf (by simp)).get?_eq_none (by simp)
  have hnew := get?_put_self fs (.directory permissions)
    (List.append_ne_nil_of_right_ne_nil dir (List.cons_ne_nil n [])) hnamed
  -- the same change was made at `q`, so `q` is where the directory is
  rcases get?_put_eq_or fs q (dir ++ [n]) (.directory permissions) with hq | ⟨rfl, -⟩
  · rw [hput, hq, hnone] at hnew
    cases hnew
  · exact isDirectory_iff.2 ⟨_, permissions, hlocate hnew, hnew⟩

theorem isDirectory_of_makeChain {paths : List Path} (hfs : fs.Consistent)
    (h : makeChain wd .folder (p :: paths) fs = (.ok (), fs')) :
    p.components = [] ∨ fs'.isDirectory wd p = true := by
  unfold makeChain at h
  split at h
  · exact .inl ‹_›
  refine .inr ?_
  -- the directory is there at the end, made in this call or found by the last question
  split at h
  · rename_i hmake
    cases h
    exact isDirectory_of_makeDirectory hfs hmake
  · split at h
    · cases h
    · rename_i habove
      split at h
      · rename_i hmake
        cases h
        exact isDirectory_of_makeDirectory ((makeChain_grown habove).consistent hfs) hmake
      · split at h
        · rename_i hdir
          cases h
          exact hdir
        · cases h
  · split at h
    · rename_i hdir
      cases h
      exact hdir
    · cases h

theorem Keeps.isDirectory (hk : Keeps fs fs') (h : fs.isDirectory wd p = true) :
    fs'.isDirectory wd p = true := by
  obtain ⟨q, permissions, hlocate, he⟩ := isDirectory_iff.1 h
  exact isDirectory_iff.2 ⟨q, permissions, hk.locate hlocate, hk.directory he⟩

/-! ## A link at the end -/

/-- Steps that lead somewhere also do without the slashes at their end, and where a link at the end is
not followed. -/
theorem Advanced.itself_of_through {tail : List Step}
    (h : Advanced fs .through place (steps ++ tail) w) (hw : ∀ d n s, w ≠ .missing d n s) :
    (∃ q, Advanced fs .itself place steps (.found q)) ∨
      ∃ dir t rest, w = .link dir t (rest ++ tail) ∧
        Advanced fs .itself place steps (.link dir t rest) := by
  induction steps generalizing place with
  | nil => exact .inl ⟨place, .done⟩
  | cons step steps ih =>
    rw [List.cons_append] at h
    generalize hall : steps ++ tail = all at h
    cases h with
    | slash hdir h =>
      subst hall
      rcases ih h with ⟨q, h'⟩ | ⟨dir, t, rest, hw', h'⟩
      · exact .inl ⟨q, .slash hdir h'⟩
      · exact .inr ⟨dir, t, rest, hw', .slash hdir h'⟩
    | here hdir henter h =>
      subst hall
      rcases ih h with ⟨q, h'⟩ | ⟨dir, t, rest, hw', h'⟩
      · exact .inl ⟨q, .here hdir henter h'⟩
      · exact .inr ⟨dir, t, rest, hw', .here hdir henter h'⟩
    | parent hdir henter h =>
      subst hall
      rcases ih h with ⟨q, h'⟩ | ⟨dir, t, rest, hw', h'⟩
      · exact .inl ⟨q, .parent hdir henter h'⟩
      · exact .inr ⟨dir, t, rest, hw', .parent hdir henter h'⟩
    | name hdir henter _ hlen hentry hlink h =>
      subst hall
      rcases ih h with ⟨q, h'⟩ | ⟨dir, t, rest, hw', h'⟩
      · exact .inl ⟨q, .name hdir henter (by simp) hlen hentry hlink h'⟩
      · exact .inr ⟨dir, t, rest, hw', .name hdir henter (by simp) hlen hentry hlink h'⟩
    | link hdir henter _ hlen hentry _ =>
      subst hall
      cases steps with
      | nil => exact .inl ⟨_, .itself hdir henter hlen hentry rfl⟩
      | cons next others =>
        exact .inr ⟨_, _, _, rfl, .link hdir henter (by simp) hlen hentry (by simp)⟩
    | itself _ _ _ _ hend => cases hend
    | missing _ _ _ _ => exact absurd rfl (hw _ _ _)
    | missingSlash _ _ _ _ _ => exact absurd rfl (hw _ _ _)
    | createdSlash _ _ hend => cases hend

theorem Followed.itself_of_through {tail : List Step}
    (h : Followed fs .through links place (steps ++ tail) (.found q)) :
    ∃ q', Followed fs .itself links place steps (.found q') := by
  generalize hall : steps ++ tail = all at h
  generalize hw : Walked.found q = w at h
  induction h generalizing steps with
  | done h hlink =>
    subst hall
    subst hw
    rcases h.itself_of_through (by simp) with ⟨q', h'⟩ | ⟨dir, t, rest, hlink', -⟩
    · exact ⟨q', .done h' (by simp)⟩
    · cases hlink'
  | across h hrest ih =>
    subst hall
    rcases h.itself_of_through (by simp) with ⟨q', h'⟩ | ⟨dir, t, rest, hlink, h'⟩
    · exact ⟨q', .done h' (by simp)⟩
    · cases hlink
      obtain ⟨q', hfollowed⟩ := ih (List.append_assoc ..) hw
      exact ⟨q', .across h' hfollowed⟩

theorem bare_taken (h : p.Taken) : p.bare.Taken := by
  rcases Path.bare_cases p with hp | ⟨slashes, hp, -, hne, -⟩
  · rwa [hp]
  · obtain ⟨hzero, -, hlen⟩ := h
    rw [hp, List.mem_append, not_or] at hzero
    rw [hp, List.length_append] at hlen
    exact ⟨hzero.1, hne, by omega⟩

/-- To make a directory that exists is to do nothing. -/
theorem makeDirectories_of_isDirectory (h : fs.isDirectory wd p = true) :
    fs.makeDirectories wd p = (.ok (), fs) := by
  have hexists : fs.makeDirectory wd .folder p = .error (.os .exists_) := by
    obtain ⟨q, -, hlocate, -⟩ := isDirectory_iff.1 h
    obtain ⟨ht, hf⟩ := locate_ok_iff.1 hlocate
    obtain ⟨tail, hsteps, -⟩ := Path.steps_bare p
    rw [hsteps] at hf
    obtain ⟨q', hfollowed⟩ := (Followed.of_follow hf (by simp)).itself_of_through
    have hstart : p.bare.start wd = p.start wd := by
      rw [Path.start, Path.isAbsolute_bare, Path.start]
    have hwalk : fs.walk wd .itself p.bare = .ok (.found q') := by
      rw [walk_ok_iff, hstart]
      exact ⟨bare_taken ht, hfollowed.follow_eq, by simp⟩
    unfold makeDirectory
    rw [if_neg (Nat.not_le.2 ht.2.2), hwalk]
  unfold makeDirectories makeChain
  split
  · rfl
  · rw [hexists]
    rfl

/-! ## Destinations -/

theorem Advanced.found_of_missing (hk : Keeps fs fs')
    (h : Advanced fs .created place steps (.missing dir n false)) {e : Entry}
    (he : fs'.get? (dir ++ [n]) = some e) (hlink : ∀ t, e ≠ .link t) :
    Advanced fs' .created place steps (.found (dir ++ [n])) := by
  generalize hw : Walked.missing dir n false = w at h
  induction h with
  | done => cases hw
  | slash hd _ ih => exact .slash (hk.directory hd) (ih hw)
  | here hd henter _ ih => exact .here (hk.directory hd) henter (ih hw)
  | parent hd henter _ ih => exact .parent (hk.directory hd) henter (ih hw)
  | name hd henter hlast hlen hentry hlink' _ ih =>
    obtain ⟨e', hentry', hnot⟩ := hk.not_link hentry hlink'
    exact .name (hk.directory hd) henter hlast hlen hentry' hnot (ih hw)
  | link _ _ _ _ _ _ => cases hw
  | itself _ _ _ _ _ => cases hw
  | missing hd henter hlen _ =>
    cases hw
    exact .name (hk.directory hd) henter (by simp) hlen he hlink .done
  | missingSlash _ _ _ _ _ => cases hw
  | createdSlash _ _ _ => cases hw

theorem Followed.found_of_missing (hk : Keeps fs fs')
    (h : Followed fs .created links place steps (.missing dir n false)) {e : Entry}
    (he : fs'.get? (dir ++ [n]) = some e) (hlink : ∀ t, e ≠ .link t) :
    Followed fs' .created links place steps (.found (dir ++ [n])) := by
  generalize hw : Walked.missing dir n false = w at h
  induction h with
  | done h _ =>
    subst hw
    exact .done (h.found_of_missing hk he hlink) (by simp)
  | across h _ ih => exact .across (hk.advanced h (by simp)) (ih hw)

/-- **Where a path was written to, it can be written to again**, if what stands there now is writable. -/
theorem target_again (h : fs.target wd p = .ok q) (hk : Keeps fs fs')
    (hmedium : fs'.medium = fs.medium) {e : Entry} (he : fs'.get? q = some e) (hwritable : e.Writable) :
    fs'.target wd p = .ok q := by
  obtain ⟨hgranted, hcases⟩ := target_ok_iff.1 h
  rw [← hmedium] at hgranted
  refine target_ok_iff.2 ⟨hgranted, .inl ⟨?_, e, he, hwritable⟩⟩
  rcases hcases with ⟨hwalk, -⟩ | ⟨dir, n, hwalk, -, rfl⟩
  · obtain ⟨ht, hf, -⟩ := walk_ok_iff.1 hwalk
    exact walk_ok_iff.2 ⟨ht, ((Followed.of_follow hf (by simp)).transfer
      fun _ _ _ hw hadv => hk.advanced hadv hw).follow_eq, by simp⟩
  · obtain ⟨ht, hf, -⟩ := walk_ok_iff.1 hwalk
    have hmissing := Followed.of_follow hf (by simp)
    have hlink : ∀ t, e ≠ .link t := by
      rintro t rfl
      have hnone := hmissing.get?_eq_none fun _ => rfl
      rw [hk.links _ t he] at hnone
      cases hnone
    exact walk_ok_iff.2 ⟨ht, (hmissing.found_of_missing hk he hlink).follow_eq, by simp⟩

/-- What is written to may be written, and is no directory. -/
theorem writable_of_target (h : fs.target wd p = .ok q) {e : Entry} (he : fs.get? q = some e) :
    e.Writable := by
  rcases target_cases h with ⟨-, e', he', hwritable⟩ | ⟨hnone, -⟩
  · rw [he, Option.some.injEq] at he'
    exact he' ▸ hwritable
  · rw [he] at hnone
    cases hnone

/-- A new file is made only where one can stand. -/
theorem storable_of_target (hfs : fs.Consistent) (h : fs.target wd p = .ok q)
    (hnone : fs.get? q = none) : q ≠ [] ∧ q.all isName = true := by
  rcases target_cases h with ⟨-, e, he, -⟩ | ⟨-, dir, n, hwalk, -, rfl⟩
  · rw [hnone] at he
    cases he
  · exact ⟨List.append_ne_nil_of_right_ne_nil dir (List.cons_ne_nil n []),
      walk_missing_named hfs hwalk fun _ => rfl⟩

/-- **A copy replaces the file at its destination at all locations of it, or what stands there keeps
nothing and nothing changes.** -/
theorem copyTo_of_target (hfs : fs.Consistent) (h : fs.target wd p = .ok q) (source : Location)
    (permissions : Permissions) :
    ∃ places, Replaced places (fs.copied source q permissions) fs (fs.copyTo source q permissions) ∧
      (places = fs.locationsOf q ∧ (∀ e, fs.get? q = some e → e.isFile = true) ∨
        places = [] ∧ ∃ e, fs.get? q = some e ∧ e.isFile = false) := by
  by_cases hfile : ∀ e, fs.get? q = some e → e.isFile = true
  · exact ⟨_, copyTo_replaced hfs (storable_of_target hfs h) hfile source permissions,
      .inl ⟨rfl, hfile⟩⟩
  · simp only [not_forall, Bool.not_eq_true] at hfile
    obtain ⟨e, he, hnot⟩ := hfile
    rw [copyTo_of_not_file he hnot]
    exact ⟨[], ⟨by simp, fun _ _ => rfl, rfl, rfl⟩, .inr ⟨rfl, e, he, hnot⟩⟩

/-- A copy leaves a consistent file system, and takes nothing away. -/
theorem copyTo_keeps (hfs : fs.Consistent) (h : fs.target wd p = .ok q) (source : Location)
    (permissions : Permissions) :
    (fs.copyTo source q permissions).Consistent ∧ Keeps fs (fs.copyTo source q permissions) := by
  obtain ⟨places, hreplaced, hplaces⟩ := copyTo_of_target hfs h source permissions
  refine ⟨hreplaced.consistent hfs (hplaces.imp (·.1) (·.1)) rfl, hreplaced.keeps rfl ?_⟩
  rcases hplaces with ⟨rfl, hfile⟩ | ⟨rfl, -⟩
  · intro p hp e he
    exact hfile e ((hfs.same q p hp).symm.trans he)
  · simp

end FileSystem

end ConsumerCheck
