import ConsumerCheck.Proofs.FileSystem.Frame

/-!
# Steps that lead somewhere

* `Advanced` — steps that lead somewhere, with what stands on the way;
* `Keeps` — a change of the files that takes nothing away and makes no links.

Principal results: `Advanced.of_advance` and `Advanced.advance_eq` — these are the steps that
`FileSystem.advance` does not refuse; `Keeps.advanced` — such a change leaves them leading where
they led; `Advanced.made` — and after it they lead to what it has made.
-/

namespace ConsumerCheck

namespace FileSystem

/-! ## Steps that lead somewhere -/

/-- The steps lead from a location to `w`, which is no refusal. -/
inductive Advanced (fs : FileSystem) (ending : Ending) : Location → List Step → Walked → Prop where
  | done {place} : Advanced fs ending place [] (.found place)
  | slash {place m rest w} (hdir : fs.get? place = some (.directory m))
      (h : Advanced fs ending place rest w) : Advanced fs ending place (.slash :: rest) w
  | here {place m rest w} (hdir : fs.get? place = some (.directory m)) (henter : m.mayEnter = true)
      (h : Advanced fs ending place rest w) : Advanced fs ending place (.here :: rest) w
  | parent {place m rest w} (hdir : fs.get? place = some (.directory m))
      (henter : m.mayEnter = true) (h : Advanced fs ending place.dropLast rest w) :
      Advanced fs ending place (.parent :: rest) w
  | name {place m n e rest w} (hdir : fs.get? place = some (.directory m))
      (henter : m.mayEnter = true) (hlast : ¬(ending = .created ∧ rest = [.slash]))
      (hlen : n.length ≤ maxName) (hentry : fs.get? (place ++ [n]) = some e)
      (hlink : ∀ t, e ≠ .link t) (h : Advanced fs ending (place ++ [n]) rest w) :
      Advanced fs ending place (.name n :: rest) w
  | link {place m n t rest} (hdir : fs.get? place = some (.directory m))
      (henter : m.mayEnter = true) (hlast : ¬(ending = .created ∧ rest = [.slash]))
      (hlen : n.length ≤ maxName) (hentry : fs.get? (place ++ [n]) = some (.link t))
      (hend : ¬(rest = [] ∧ ending = .itself)) :
      Advanced fs ending place (.name n :: rest) (.link place t rest)
  | itself {place m n t} (hdir : fs.get? place = some (.directory m))
      (henter : m.mayEnter = true) (hlen : n.length ≤ maxName)
      (hentry : fs.get? (place ++ [n]) = some (.link t)) (hend : ending = .itself) :
      Advanced fs ending place [.name n] (.found (place ++ [n]))
  | missing {place m n} (hdir : fs.get? place = some (.directory m)) (henter : m.mayEnter = true)
      (hlen : n.length ≤ maxName) (hentry : fs.get? (place ++ [n]) = none) :
      Advanced fs ending place [.name n] (.missing place n false)
  | missingSlash {place m n} (hdir : fs.get? place = some (.directory m))
      (henter : m.mayEnter = true) (hend : ending ≠ .created) (hlen : n.length ≤ maxName)
      (hentry : fs.get? (place ++ [n]) = none) :
      Advanced fs ending place [.name n, .slash] (.missing place n true)
  | createdSlash {place m n} (hdir : fs.get? place = some (.directory m))
      (henter : m.mayEnter = true) (hend : ending = .created) :
      Advanced fs ending place [.name n, .slash] (.missing place n true)

variable {fs fs' : FileSystem} {ending : Ending} {place q : Location} {steps rest : List Step}
  {w : Walked}

theorem Advanced.of_advance (h : fs.advance ending place steps = w) (hw : ∀ e, w ≠ .refused e) :
    Advanced fs ending place steps w := by
  induction steps generalizing place with
  | nil =>
    subst h
    exact .done
  | cons step rest ih =>
    unfold advance at h
    -- what stands at the location must be a directory, or the step is refused
    split at h
    · exact absurd h.symm (hw _)
    · exact absurd h.symm (hw _)
    · exact absurd h.symm (hw _)
    · exact absurd h.symm (hw _)
    rename_i m hdir
    split at h
    · exact absurd h.symm (hw _)
    rename_i hmay
    have henter : step ≠ .slash → m.mayEnter = true := by
      intro hs
      simpa [hs] using hmay
    cases step with
    | here => exact .here hdir (henter (by simp)) (ih h)
    | slash => exact .slash hdir (ih h)
    | parent => exact .parent hdir (henter (by simp)) (ih h)
    | name n =>
      have henter := henter (by simp)
      simp only [Bool.and_eq_true, decide_eq_true_eq] at h
      split at h
      · rename_i hlast
        obtain ⟨hend, rfl⟩ := hlast
        subst h
        exact .createdSlash hdir henter hend
      rename_i hlast
      split at h
      · exact absurd h.symm (hw _)
      rename_i hlen
      have hlen := Nat.le_of_not_lt hlen
      -- what stands under the name: nothing, a link, or anything else
      split at h
      · rename_i hentry
        split at h
        · subst h
          exact .missing hdir henter hlen hentry
        · subst h
          exact .missingSlash hdir henter (fun hend => hlast ⟨hend, rfl⟩) hlen hentry
        · exact absurd h.symm (hw _)
      · rename_i t hentry
        split at h
        · rename_i hend
          obtain ⟨rfl, hend⟩ := hend
          subst h
          exact .itself hdir henter hlen hentry hend
        · rename_i hend
          subst h
          exact .link hdir henter hlast hlen hentry hend
      · rename_i e hlink hentry
        exact .name hdir henter hlast hlen hentry hlink (ih h)

theorem Advanced.advance_eq (h : Advanced fs ending place steps w) :
    fs.advance ending place steps = w := by
  induction h with
  | done => rfl
  | slash hdir _ ih => simp [advance, hdir, ih]
  | here hdir henter _ ih => simp [advance, hdir, henter, ih]
  | parent hdir henter _ ih => simp [advance, hdir, henter, ih]
  | name hdir henter hlast hlen hentry hlink _ ih =>
    simp [advance, hdir, henter, hlast, Nat.not_lt.2 hlen, hentry, ih]
  | link hdir henter hlast hlen hentry hend =>
    simp [advance, hdir, henter, hlast, Nat.not_lt.2 hlen, hentry, hend]
  | itself hdir henter hlen hentry hend =>
    simp [advance, hdir, henter, Nat.not_lt.2 hlen, hentry, hend]
  | missing hdir henter hlen hentry =>
    simp [advance, hdir, henter, Nat.not_lt.2 hlen, hentry]
  | missingSlash hdir henter hend hlen hentry =>
    simp [advance, hdir, henter, hend, Nat.not_lt.2 hlen, hentry]
  | createdSlash hdir henter hend => simp [advance, hdir, henter, hend]

/-- Where nothing was found, nothing stands. -/
theorem Advanced.get?_eq_none {dir : Location} {n : Bytes} {slash : Bool}
    (h : Advanced fs ending place steps (.missing dir n slash))
    (hend : ending = .created → slash = false) : fs.get? (dir ++ [n]) = none := by
  generalize hw : Walked.missing dir n slash = w at h
  induction h with
  | done => cases hw
  | slash _ _ ih => exact ih hw
  | here _ _ _ ih => exact ih hw
  | parent _ _ _ ih => exact ih hw
  | name _ _ _ _ _ _ _ ih => exact ih hw
  | link _ _ _ _ _ _ => cases hw
  | itself _ _ _ _ _ => cases hw
  | missing _ _ _ hentry =>
    cases hw
    exact hentry
  | missingSlash _ _ _ _ hentry =>
    cases hw
    exact hentry
  | createdSlash _ _ hcreated =>
    cases hw
    exact absurd (hend hcreated) (by simp)

/-- A file that would be made for what was found is not made: it is opened. -/
theorem Advanced.through (h : Advanced fs .created place steps w)
    (hw : ∀ d n s, w ≠ .missing d n s) : Advanced fs .through place steps w := by
  induction h with
  | done => exact .done
  | slash hdir _ ih => exact .slash hdir (ih hw)
  | here hdir henter _ ih => exact .here hdir henter (ih hw)
  | parent hdir henter _ ih => exact .parent hdir henter (ih hw)
  | name hdir henter _ hlen hentry hlink _ ih =>
    exact .name hdir henter (by simp) hlen hentry hlink (ih hw)
  | link hdir henter _ hlen hentry _ => exact .link hdir henter (by simp) hlen hentry (by simp)
  | itself _ _ _ _ hend => cases hend
  | missing _ _ _ _ => exact absurd rfl (hw _ _ _)
  | missingSlash _ _ _ _ _ => exact absurd rfl (hw _ _ _)
  | createdSlash _ _ _ => exact absurd rfl (hw _ _ _)

/-! ## Changes that take nothing away -/

/-- Nothing is taken away, only files change, and no link is made. -/
structure Keeps (fs fs' : FileSystem) : Prop where
  same : ∀ q e, fs.get? q = some e → e.isFile = false → fs'.get? q = some e
  file : ∀ q e, fs.get? q = some e → e.isFile = true → ∃ e', fs'.get? q = some e' ∧ e'.isFile = true
  links : ∀ q t, fs'.get? q = some (.link t) → fs.get? q = some (.link t)

namespace Keeps

theorem refl (fs : FileSystem) : Keeps fs fs :=
  ⟨fun _ _ h _ => h, fun _ e h he => ⟨e, h, he⟩, fun _ _ h => h⟩

theorem trans {fs₁ fs₂ fs₃ : FileSystem} (h : Keeps fs₁ fs₂) (h' : Keeps fs₂ fs₃) :
    Keeps fs₁ fs₃ where
  same q e he hfile := h'.same q e (h.same q e he hfile) hfile
  file q e he hfile := by
    obtain ⟨e', he', hfile'⟩ := h.file q e he hfile
    exact h'.file q e' he' hfile'
  links q t ht := h.links q t (h'.links q t ht)

theorem directory (hk : Keeps fs fs') {m : Permissions} (h : fs.get? q = some (.directory m)) :
    fs'.get? q = some (.directory m) := hk.same q _ h rfl

theorem link (hk : Keeps fs fs') {t : Path} (h : fs.get? q = some (.link t)) :
    fs'.get? q = some (.link t) := hk.same q _ h rfl

/-- What is no link has not become one. -/
theorem not_link (hk : Keeps fs fs') {e : Entry} (h : fs.get? q = some e)
    (hlink : ∀ t, e ≠ .link t) :
    ∃ e', fs'.get? q = some e' ∧ ∀ t, e' ≠ .link t := by
  cases hfile : e.isFile with
  | true =>
    obtain ⟨e', he', hfile'⟩ := hk.file q e h hfile
    refine ⟨e', he', ?_⟩
    intro t ht
    rw [ht] at hfile'
    cases hfile'
  | false => exact ⟨e, hk.same q e h hfile, hlink⟩

theorem advanced (hk : Keeps fs fs') (h : Advanced fs ending place steps w)
    (hw : ∀ d n s, w ≠ .missing d n s) : Advanced fs' ending place steps w := by
  induction h with
  | done => exact .done
  | slash hdir _ ih => exact .slash (hk.directory hdir) (ih hw)
  | here hdir henter _ ih => exact .here (hk.directory hdir) henter (ih hw)
  | parent hdir henter _ ih => exact .parent (hk.directory hdir) henter (ih hw)
  | name hdir henter hlast hlen hentry hlink _ ih =>
    obtain ⟨e', hentry', hlink'⟩ := hk.not_link hentry hlink
    exact .name (hk.directory hdir) henter hlast hlen hentry' hlink' (ih hw)
  | link hdir henter hlast hlen hentry hend =>
    exact .link (hk.directory hdir) henter hlast hlen (hk.link hentry) hend
  | itself hdir henter hlen hentry hend =>
    exact .itself (hk.directory hdir) henter hlen (hk.link hentry) hend
  | missing _ _ _ _ => exact absurd rfl (hw _ _ _)
  | missingSlash _ _ _ _ _ => exact absurd rfl (hw _ _ _)
  | createdSlash _ _ _ => exact absurd rfl (hw _ _ _)

end Keeps

/-- A copy to a file with one location, or to where nothing is, takes nothing away. -/
theorem keeps_copyTo {source : Location} (hnil : q ≠ []) (hnamed : q.all isName = true)
    (halone : fs.locationsOf q = [q]) (permissions : Permissions) (hsource : source ≠ q)
    (hkind : ∀ e, fs.get? q = some e → e.isFile = true) :
    Keeps fs (fs.copyTo source q permissions) := by
  have hcopied := get?_copyTo_self hnil hnamed halone permissions hsource hkind
  have hother := fun p (hp : p ≠ q) => get?_copyTo_of_ne halone source permissions hp
  refine ⟨?_, ?_, ?_⟩
  · intro p e he hnot
    rw [hother p, he]
    rintro rfl
    rw [hkind e he] at hnot
    cases hnot
  · intro p e he hfile
    by_cases hp : p = q
    · rw [hp]
      exact ⟨_, hcopied, rfl⟩
    · exact ⟨e, by rw [hother p hp, he], hfile⟩
  · intro p t ht
    by_cases hp : p = q
    · rw [hp, hcopied] at ht
      cases ht
    · rw [← hother p hp, ht]

/-! ## What is made -/

section Made

variable {dir : Location} {n : Bytes} {slash : Bool} {tail : List Step}

/-- Slashes lead from a directory to itself. -/
theorem Advanced.slashes (htail : ∀ s ∈ tail, s = .slash)
    (hdir : tail ≠ [] → ∃ m, fs.get? q = some (.directory m)) :
    Advanced fs ending q tail (.found q) := by
  induction tail with
  | nil => exact .done
  | cons s tail ih =>
    obtain ⟨m, hm⟩ := hdir (by simp)
    rw [htail s List.mem_cons_self]
    exact .slash hm (ih (fun s hs => htail s (List.mem_cons_of_mem _ hs)) (fun _ => ⟨m, hm⟩))

/-- Steps that led to no entry lead to the one that was made there, a directory also with slashes
after them. -/
theorem Advanced.made (hk : Keeps fs fs')
    (h : Advanced fs ending place steps (.missing dir n slash))
    (hend : ending = .created → slash = false) {e : Entry} (he : fs'.get? (dir ++ [n]) = some e)
    (hlink : ∀ t, e ≠ .link t) (htail : ∀ s ∈ tail, s = .slash)
    (hdir : slash = true ∨ tail ≠ [] → ∃ m, e = .directory m) :
    Advanced fs' .through place (steps ++ tail) (.found (dir ++ [n])) := by
  generalize hw : Walked.missing dir n slash = w at h
  induction h with
  | done => cases hw
  | slash hd _ ih => exact .slash (hk.directory hd) (ih hw)
  | here hd henter _ ih => exact .here (hk.directory hd) henter (ih hw)
  | parent hd henter _ ih => exact .parent (hk.directory hd) henter (ih hw)
  | name hd henter _ hlen hentry hlink' _ ih =>
    obtain ⟨e', hentry', hnot⟩ := hk.not_link hentry hlink'
    exact .name (hk.directory hd) henter (by simp) hlen hentry' hnot (ih hw)
  | link _ _ _ _ _ _ => cases hw
  | itself _ _ _ _ _ => cases hw
  | missing hd henter hlen _ =>
    cases hw
    refine .name (hk.directory hd) henter (by simp) hlen he hlink (.slashes htail ?_)
    intro hne
    obtain ⟨m, rfl⟩ := hdir (.inr hne)
    exact ⟨m, he⟩
  | missingSlash hd henter _ hlen _ =>
    cases hw
    obtain ⟨m, rfl⟩ := hdir (.inl rfl)
    refine .name (hk.directory hd) henter (by simp) hlen he hlink (.slash he ?_)
    exact .slashes htail fun _ => ⟨m, he⟩
  | createdSlash _ _ hcreated =>
    cases hw
    exact absurd (hend hcreated) (by simp)

theorem Advanced.link_append (hk : Keeps fs fs') {t : Path}
    (h : Advanced fs ending place steps (.link dir t rest)) (tail : List Step) :
    Advanced fs' .through place (steps ++ tail) (.link dir t (rest ++ tail)) := by
  generalize hw : Walked.link dir t rest = w at h
  induction h with
  | done => cases hw
  | slash hd _ ih => exact .slash (hk.directory hd) (ih hw)
  | here hd henter _ ih => exact .here (hk.directory hd) henter (ih hw)
  | parent hd henter _ ih => exact .parent (hk.directory hd) henter (ih hw)
  | name hd henter _ hlen hentry hlink _ ih =>
    obtain ⟨e', hentry', hnot⟩ := hk.not_link hentry hlink
    exact .name (hk.directory hd) henter (by simp) hlen hentry' hnot (ih hw)
  | link hd henter _ hlen hentry _ =>
    cases hw
    exact .link (hk.directory hd) henter (by simp) hlen (hk.link hentry) (by simp)
  | itself _ _ _ _ _ => cases hw
  | missing _ _ _ _ => cases hw
  | missingSlash _ _ _ _ _ => cases hw
  | createdSlash _ _ _ => cases hw

end Made

end FileSystem

end ConsumerCheck
