import ConsumerCheck.Proofs.FileSystem.Resolution

/-!
# Directories that are made

Making a directory with those above it adds directories where nothing stood, each one led to by one
of the paths on the way, and changes nothing else; this holds also when it stops at a refusal.

* `Untouched` — what such a change at most does to a location;
* `Grown` — the change that making directories is;
* `makeDirectory_spec`, `makeChain_grown` — one directory, and all that are missing on the way to
  it.
-/

namespace ConsumerCheck.FileSystem

variable {fs fs' : FileSystem} {wd q : Location} {p : Path} {paths : List Path}

/-- At a location, at most a directory has appeared where nothing stood. -/
def Untouched (fs fs' : FileSystem) (q : Location) : Prop :=
  fs'.get? q = fs.get? q ∨ fs.get? q = none ∧ fs'.get? q = some (.directory .folder)

theorem Untouched.trans {fs₁ fs₂ fs₃ : FileSystem} (h : Untouched fs₁ fs₂ q)
    (h' : Untouched fs₂ fs₃ q) : Untouched fs₁ fs₃ q := by
  rcases h with h | ⟨hnone, hdir⟩
  · rcases h' with h' | ⟨hnone', hdir'⟩
    · exact .inl (h'.trans h)
    · exact .inr ⟨h ▸ hnone', hdir'⟩
  · rcases h' with h' | ⟨hnone', -⟩
    · exact .inr ⟨hnone, h'.trans hdir⟩
    · rw [hdir] at hnone'
      cases hnone'

/-- Directories were made where nothing stood, each led to by one of the paths, and no more than
that. -/
structure Grown (wd : Location) (paths : List Path) (fs fs' : FileSystem) : Prop where
  made : ∀ q, fs'.get? q = fs.get? q ∨
    fs.get? q = none ∧ fs'.get? q = some (.directory .folder) ∧ ∃ p ∈ paths, fs'.locate wd p = .ok q
  shared : fs'.shared = fs.shared
  medium : fs'.medium = fs.medium

namespace Grown

theorem refl (wd : Location) (paths : List Path) (fs : FileSystem) : Grown wd paths fs fs :=
  ⟨fun _ => .inl rfl, rfl, rfl⟩

theorem kept (h : Grown wd paths fs fs') {e : Entry} (he : fs.get? q = some e) :
    fs'.get? q = some e := by
  rcases h.made q with hq | ⟨hnone, -, -⟩
  · rw [hq, he]
  · rw [he] at hnone
    cases hnone

theorem untouched (h : Grown wd paths fs fs') (q : Location) : fs.Untouched fs' q := by
  rcases h.made q with hq | ⟨hnone, hdir, -⟩
  · exact .inl hq
  · exact .inr ⟨hnone, hdir⟩

theorem keeps (h : Grown wd paths fs fs') : Keeps fs fs' where
  same _ _ he _ := h.kept he
  file _ e he hfile := ⟨e, h.kept he, hfile⟩
  links q t ht := by
    rcases h.made q with hq | ⟨-, hdir, -⟩
    · rw [← hq, ht]
    · rw [hdir] at ht
      cases ht

theorem no_device (h : Grown wd paths fs fs') (hnone : ∀ d, fs.get? q ≠ some (.device d)) :
    ∀ d, fs'.get? q ≠ some (.device d) := by
  intro d hd
  rcases h.made q with hq | ⟨-, hdir, -⟩
  · exact hnone d (hq.symm.trans hd)
  · rw [hdir] at hd
    cases hd

theorem trans {fs₁ fs₂ fs₃ : FileSystem} (h : Grown wd paths fs₁ fs₂)
    (h' : Grown wd paths fs₂ fs₃) : Grown wd paths fs₁ fs₃ where
  made q := by
    rcases h'.made q with hq | ⟨hnone, hdir, hp⟩
    · rcases h.made q with hq' | ⟨hnone', hdir', p, hp, hl⟩
      · exact .inl (hq.trans hq')
      · exact .inr ⟨hnone', hq.trans hdir', p, hp, h'.keeps.locate hl⟩
    · rcases h.made q with hq' | ⟨hnone', hdir', -⟩
      · exact .inr ⟨hq' ▸ hnone, hdir, hp⟩
      · rw [hnone] at hdir'
        cases hdir'
  shared := h'.shared.trans h.shared
  medium := h'.medium.trans h.medium

theorem mono {more : List Path} (h : Grown wd paths fs fs') (hsub : paths ⊆ more) :
    Grown wd more fs fs' where
  made q := by
    rcases h.made q with hq | ⟨hnone, hdir, p, hp, hl⟩
    · exact .inl hq
    · exact .inr ⟨hnone, hdir, p, hsub hp, hl⟩
  shared := h.shared
  medium := h.medium

end Grown

theorem Keeps.put_new (hnone : fs.get? q = none) {e : Entry} (hlink : ∀ t, e ≠ .link t) :
    Keeps fs (fs.put q e) := by
  have hkept : ∀ p e', fs.get? p = some e' → (fs.put q e).get? p = some e' := by
    intro p e' hp
    rw [get?_put_of_ne fs e, hp]
    rintro rfl
    rw [hnone] at hp
    cases hp
  refine ⟨fun p e' hp _ => hkept p e' hp, fun p e' hp hfile => ⟨e', hkept p e' hp, hfile⟩, ?_⟩
  intro p t ht
  rcases get?_put_eq_or fs q p e with h | ⟨-, h⟩
  · rw [← h, ht]
  · rw [h, Option.some.injEq] at ht
    exact absurd ht (hlink t)

theorem taken_of_bare (h : p.bare.Taken) (hlen : p.octets.length < maxPath) : p.Taken := by
  rcases Path.bare_cases p with hp | ⟨slashes, hp, hall, hne, -⟩
  · rwa [hp] at h
  · refine ⟨?_, by simp [hp, hne], hlen⟩
    rw [hp, List.mem_append, not_or]
    refine ⟨h.1, ?_⟩
    intro hzero
    exact absurd (hall 0 hzero) (by decide)

/-- A directory is made where a path leads to no entry, if the medium and the directory above take it. -/
theorem makeDirectory_ok_iff {permissions : Permissions} :
    fs.makeDirectory wd permissions p = .ok fs' ↔ p.octets.length < maxPath ∧
      ∃ dir n slash, fs.walk wd .itself p.bare = .ok (.missing dir n slash) ∧
        fs.grant (dir ++ [n]) (fs.mayChangeAt dir) = .ok (dir ++ [n]) ∧
        fs' = fs.put (dir ++ [n]) (.directory permissions) := by
  unfold makeDirectory
  constructor
  · intro h
    split at h
    · rename_i dir n slash hwalk
      split at hwalk
      · cases hwalk
      rename_i hlen
      cases hgrant : fs.grant (dir ++ [n]) (fs.mayChangeAt dir) with
      | error e =>
        rw [hgrant] at h
        cases h
      | ok q =>
        obtain ⟨-, -, rfl⟩ := grant_ok_iff.1 hgrant
        rw [hgrant] at h
        cases h
        exact ⟨Nat.lt_of_not_le hlen, dir, n, slash, hwalk, hgrant, rfl⟩
    · cases h
    · cases h
  · rintro ⟨hlen, dir, n, slash, hwalk, hgrant, rfl⟩
    rw [if_neg (Nat.not_le.2 hlen), hwalk]
    dsimp only
    rw [hgrant]
    rfl

/-- A directory is made where nothing stood, and the path leads to it. -/
theorem makeDirectory_spec {permissions : Permissions}
    (h : fs.makeDirectory wd permissions p = .ok fs') :
    ∃ q, fs.get? q = none ∧ fs' = fs.put q (.directory permissions) ∧
      (fs'.get? q = some (.directory permissions) → fs'.locate wd p = .ok q) := by
  obtain ⟨hlen, dir, n, slash, hwalk, -, rfl⟩ := makeDirectory_ok_iff.1 h
  obtain ⟨ht, hf, -⟩ := walk_ok_iff.1 hwalk
  have hfollowed := Followed.of_follow hf (by simp)
  have hnone := hfollowed.get?_eq_none (by simp)
  refine ⟨dir ++ [n], hnone, rfl, ?_⟩
  intro hmade
  obtain ⟨tail, hsteps, htail⟩ := Path.steps_bare p
  refine locate_ok_iff.2 ⟨taken_of_bare ht hlen, ?_⟩
  have hstart : p.bare.start wd = p.start wd := by
    rw [Path.start, Path.isAbsolute_bare, Path.start]
  rw [hsteps, ← hstart]
  exact (hfollowed.made (Keeps.put_new hnone (by simp)) (by simp) hmade (by simp) htail
    (fun _ => ⟨permissions, rfl⟩)).follow_eq

theorem makeDirectory_grown (h : fs.makeDirectory wd .folder p = .ok fs') :
    Grown wd [p] fs fs' := by
  obtain ⟨q, hnone, rfl, hlocate⟩ := makeDirectory_spec h
  refine ⟨?_, shared_put .., medium_put ..⟩
  intro q'
  rcases get?_put_eq_or fs q q' (.directory .folder) with hq | ⟨rfl, hq⟩
  · exact .inl hq
  · exact .inr ⟨hnone, hq, p, List.mem_singleton.2 rfl, hlocate hq⟩

/-- **Making a directory with those above it adds directories on the way and changes nothing else**,
however it ends. -/
theorem makeChain_grown {result : Except IoError Unit}
    (h : makeChain wd .folder paths fs = (result, fs')) : Grown wd paths fs fs' := by
  induction paths generalizing fs fs' result with
  | nil =>
    cases h
    exact .refl ..
  | cons p above ih =>
    -- the directory itself is made at most once, before or after those above it
    have hone : ∀ {fs₁ fs₂ : FileSystem}, fs₁.makeDirectory wd .folder p = .ok fs₂ →
        Grown wd (p :: above) fs₁ fs₂ := by
      intro fs₁ fs₂ hmake
      exact (makeDirectory_grown hmake).mono (by simp)
    unfold makeChain at h
    split at h
    · cases h
      exact .refl ..
    split at h
    · rename_i hmake
      cases h
      exact hone hmake
    · split at h
      · rename_i habove
        cases h
        exact (ih habove).mono (by simp)
      · rename_i fs₁ habove
        have hgrown : Grown wd (p :: above) fs fs₁ := (ih habove).mono (by simp)
        split at h
        · rename_i hmake
          cases h
          exact hgrown.trans (hone hmake)
        · cases h
          exact hgrown
    · cases h
      exact .refl ..

theorem makeDirectories_grown {result : Except IoError Unit}
    (h : fs.makeDirectories wd p = (result, fs')) : Grown wd (p :: p.ancestors) fs fs' :=
  makeChain_grown h

end ConsumerCheck.FileSystem
