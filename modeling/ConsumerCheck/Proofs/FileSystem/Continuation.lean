import ConsumerCheck.Proofs.FileSystem.Persistence

/-!
# Paths that lead on

A path that names lead on from is followed like the path itself, and then the names from where it leads; a
slash at its end plays no part. Of the links that a path may lead over, the path itself takes its share.

* `FileSystem.Reaches` — what stands at the end of a way through directories.

Principal results: `follow_extend` — names below a path are followed from where the path leads;
`Reaches.locateLink` — a path to an entry that is reached leads to it and nowhere else, if a link there is not
followed.
-/

namespace ConsumerCheck.FileSystem

variable {fs : FileSystem} {ending : Ending} {wd place q : Location} {steps tail more : List Step}
  {links : Nat} {w : Walked} {base : Path} {names : List Bytes}

/-! ## Steps behind steps -/

/-- Steps that lead somewhere lead there on the way to others, also without the slashes at their end. Where they
lead to a link, the others are behind what was left. -/
theorem Advanced.onward (h : Advanced fs .through place (steps ++ tail) w)
    (hw : ∀ d n s, w ≠ .missing d n s) (htail : ∀ s ∈ tail, s = .slash) :
    (∃ q, w = .found q ∧ ∀ ending more, ending ≠ .created → more ≠ [] →
      fs.advance ending place (steps ++ more) = fs.advance ending q more) ∨
    ∃ dir t rest, w = .link dir t (rest ++ tail) ∧ ∀ ending more, ending ≠ .created →
      more ≠ [] → fs.advance ending place (steps ++ more) = .link dir t (rest ++ more) := by
  induction steps generalizing place with
  | nil =>
    refine .inl ⟨place, ?_, fun _ _ _ _ => rfl⟩
    rw [List.nil_append] at h
    -- slashes stay where they are
    clear hw
    induction tail with
    | nil =>
      cases h
      rfl
    | cons s tail ih =>
      obtain rfl := htail s List.mem_cons_self
      cases h with
      | slash _ h => exact ih (fun s hs => htail s (List.mem_cons_of_mem _ hs)) h
  | cons step steps ih =>
    rw [List.cons_append] at h
    generalize hall : steps ++ tail = all at h
    cases h with
    | slash hdir h =>
      subst hall
      simpa [advance, hdir] using ih h
    | here hdir henter h =>
      subst hall
      simpa [advance, hdir, henter] using ih h
    | parent hdir henter h =>
      subst hall
      simpa [advance, hdir, henter] using ih h
    | @name _ m n e _ _ hdir henter _ hlen hentry hlink h =>
      subst hall
      have hstep : ∀ ending more, ending ≠ .created →
          fs.advance ending place (.name n :: (steps ++ more)) =
            fs.advance ending (place ++ [n]) (steps ++ more) := by
        intro ending more hend
        cases e with
        | link t => exact absurd rfl (hlink t)
        | file | directory | device => simp [advance, hdir, henter, hend, Nat.not_lt.2 hlen, hentry]
      rcases ih h with ⟨q, rfl, hq⟩ | ⟨dir, t, rest, rfl, hlinked⟩
      · exact .inl ⟨q, rfl, fun ending more hend hne =>
          (hstep ending more hend).trans (hq ending more hend hne)⟩
      · exact .inr ⟨dir, t, rest, rfl, fun ending more hend hne =>
          (hstep ending more hend).trans (hlinked ending more hend hne)⟩
    | link hdir henter _ hlen hentry _ =>
      subst hall
      refine .inr ⟨_, _, steps, rfl, ?_⟩
      intro ending more hend hne
      simp [advance, hdir, henter, hend, Nat.not_lt.2 hlen, hentry, hne]
    | itself _ _ _ _ hend => cases hend
    | missing _ _ _ _ => exact absurd rfl (hw _ _ _)
    | missingSlash _ _ _ _ _ => exact absurd rfl (hw _ _ _)
    | createdSlash _ _ hend => cases hend

theorem follow_congr_advance {start : Location}
    (h : fs.advance ending start steps = fs.advance ending place more) :
    fs.follow ending links start steps = fs.follow ending links place more := by
  unfold follow
  rw [h]

theorem follow_of_link {dir : Location} {t : Path} {rest : List Step}
    (h : fs.advance ending place steps = .link dir t rest) :
    fs.follow ending (links + 1) place steps =
      fs.follow ending links (if t.isAbsolute then [] else dir) (t.steps ++ rest) := by
  conv_lhs => unfold follow
  rw [h]

/-- Steps over links that lead somewhere lead there on the way to others, and leave these a number of links. -/
theorem Followed.onward (h : Followed fs .through links place (steps ++ tail) (.found q))
    (htail : ∀ s ∈ tail, s = .slash) :
    ∃ left, ∀ ending more, ending ≠ .created → more ≠ [] →
      fs.follow ending links place (steps ++ more) = fs.follow ending left q more := by
  generalize hall : steps ++ tail = all at h
  generalize hw : Walked.found q = w at h
  induction h generalizing steps with
  | done h _ =>
    subst hall
    subst hw
    rename_i links _ _
    rcases h.onward (by simp) htail with ⟨q', heq, honward⟩ | ⟨dir, t, rest, heq, -⟩
    · cases heq
      exact ⟨links, fun ending more hend hne => follow_congr_advance (honward ending more hend hne)⟩
    · cases heq
  | across h hrest ih =>
    subst hall
    rcases h.onward (by simp) htail with ⟨q', heq, -⟩ | ⟨dir, t, rest, heq, honward⟩
    · cases heq
    · cases heq
      obtain ⟨left, hleft⟩ := ih (List.append_assoc ..) hw
      refine ⟨left, fun ending more hend hne => ?_⟩
      rw [follow_of_link (honward ending more hend hne), ← List.append_assoc]
      exact hleft ending more hend hne

/-- **Names below a path are followed from where the path leads.** -/
theorem follow_extend (h : fs.locate wd base = .ok place) :
    ∃ left, ∀ ending names, ending ≠ .created → names ≠ [] → names.all isName = true →
      fs.follow ending maxLinks ((base.extend names).start wd) (base.extend names).steps =
        fs.follow ending left place (names.map .name) := by
  obtain ⟨-, hf⟩ := locate_ok_iff.1 h
  rw [Path.steps_eq] at hf
  obtain ⟨left, hleft⟩ := (Followed.of_follow hf (by simp)).onward (by
    intro s hs
    split at hs
    · exact List.mem_singleton.1 hs
    · cases hs)
  refine ⟨left, fun ending names hend hne hnames => ?_⟩
  rw [Path.steps_extend base hnames hne, Path.start, Path.isAbsolute_extend base hnames]
  exact hleft ending _ hend (by simpa using hne)

/-! ## What is reached through directories -/

/-- The names lead from a location through directories, and not over links, to where something stands. -/
inductive Reaches (fs : FileSystem) : Location → List Bytes → Prop where
  | entry {place name e} (h : fs.get? (place ++ [name]) = some e) : Reaches fs place [name]
  | into {place name m names} (h : fs.get? (place ++ [name]) = some (.directory m))
      (hrest : Reaches fs (place ++ [name]) names) : Reaches fs place (name :: names)

theorem Reaches.ne_nil (h : fs.Reaches place names) : names ≠ [] := by
  cases h <;> simp

theorem Reaches.get? (h : fs.Reaches place names) : ∃ e, fs.get? (place ++ names) = some e := by
  induction h with
  | entry h => exact ⟨_, h⟩
  | into _ _ ih => simpa using ih

theorem Reaches.named (h : fs.Reaches place names) : names.all isName = true := by
  obtain ⟨e, he⟩ := h.get?
  have hnamed := named_of_get? he
  rw [List.all_append, Bool.and_eq_true] at hnamed
  exact hnamed.2

/-- If a way over the names leads somewhere, they lead to what is reached where a link is not followed. -/
theorem Reaches.itself (h : fs.Reaches place names)
    (hadv : Advanced fs .through place (names.map .name) w) :
    Advanced fs .itself place (names.map .name) (.found (place ++ names)) := by
  induction h with
  | entry h =>
    cases hadv with
    | name hdir henter _ hlen hentry hlink _ =>
      exact .name hdir henter (by simp) hlen hentry hlink .done
    | link hdir henter _ hlen hentry _ => exact .itself hdir henter hlen hentry rfl
    | itself _ _ _ _ hend => cases hend
    | missing _ _ _ hentry =>
      rw [h] at hentry
      cases hentry
  | into h hrest ih =>
    rename_i name m names
    obtain ⟨next, others, rfl⟩ := List.exists_cons_of_ne_nil hrest.ne_nil
    rw [List.map_cons] at hadv ⊢
    generalize hsteps : (next :: others).map Step.name = steps at hadv
    cases hadv with
    | name hdir henter _ hlen hentry hlink hadv =>
      subst hsteps
      have hfound := ih hadv
      rw [List.append_assoc] at hfound
      exact .name hdir henter (by simp) hlen hentry hlink hfound
    | link hdir henter _ hlen hentry _ =>
      rw [h] at hentry
      cases hentry
    | itself _ _ _ _ hend => cases hend
    | missing _ _ _ _ => cases hsteps
    | missingSlash _ _ _ _ _ => cases hsteps
    | createdSlash _ _ hend => cases hend

/-- Names lead through directories that may be entered to what is reached, unless it is a link. -/
theorem Reaches.through (h : fs.Reaches place names) {m : Permissions}
    (hroot : fs.get? place = some (.directory m)) (henter : m.mayEnter = true)
    (hopen : ∀ names m, fs.Reaches place names → fs.get? (place ++ names) = some (.directory m) →
      m.mayEnter = true)
    (hlast : ∀ t, fs.get? (place ++ names) ≠ some (.link t)) :
    Advanced fs .through place (names.map .name) (.found (place ++ names)) := by
  have hlen {name : Bytes} {names : List Bytes} (h : (name :: names).all isName = true) :
      name.length ≤ maxName := by
    rw [List.all_cons, Bool.and_eq_true] at h
    exact (isName_iff.1 h.1).2.2.2.1
  induction h generalizing m with
  | @entry place name e he =>
    exact .name hroot henter (by simp) (hlen (Reaches.entry he).named) he
      (fun t ht => hlast t (ht ▸ he)) .done
  | @into place name m' names hdir hrest ih =>
    have hfound := ih hdir (hopen _ _ (.entry hdir) hdir)
      (fun names m hnames he => hopen (name :: names) m (.into hdir hnames) (by simpa using he))
      (by simpa using hlast)
    rw [List.append_assoc] at hfound
    exact .name hroot henter (by simp) (hlen (Reaches.into hdir hrest).named) hdir (by simp) hfound

/-- **A path to what is reached leads to it, if a link there is not followed**, provided the path leads
anywhere at all. -/
theorem Reaches.locateLink (h : fs.Reaches place names) (hplace : fs.locate wd base = .ok place)
    (hq : fs.locate wd (base.extend names) = .ok q) :
    fs.locateLink wd (base.extend names) = .ok (place ++ names) := by
  obtain ⟨left, hleft⟩ := follow_extend hplace
  obtain ⟨ht, hf⟩ := locate_ok_iff.1 hq
  rw [hleft .through names (by simp) h.ne_nil h.named] at hf
  have hitself : Advanced fs .itself place (names.map .name) (.found (place ++ names)) := by
    cases Followed.of_follow hf (by simp) with
    | done hadv _ => exact h.itself hadv
    | across hadv _ => exact h.itself hadv
  have hwalk : fs.walk wd .itself (base.extend names) = .ok (.found (place ++ names)) := by
    rw [walk_ok_iff, hleft .itself names (by simp) h.ne_nil h.named]
    exact ⟨ht, (Followed.done hitself (by simp)).follow_eq, by simp⟩
  unfold FileSystem.locateLink
  rw [hwalk]
  rfl

end ConsumerCheck.FileSystem
