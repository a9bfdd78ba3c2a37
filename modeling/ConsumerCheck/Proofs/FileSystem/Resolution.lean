import ConsumerCheck.Proofs.FileSystem.Advance
import ConsumerCheck.Proofs.Path

/-!
# Where paths lead while files change

* `Followed` — steps that lead somewhere over links;
* `Step.next`, `Path.lexical`, `Path.trail` — where a path leads and what it passes, by its steps
  alone.

Principal results: `Keeps.locate` — what a path led to, it still leads to after a change that takes
nothing away; `Followed.made`, `locate_of_target` — a path that led to no entry leads to the one that
is made there; `walk_lexical` — a path that passes no link leads where its steps alone do.
-/

namespace ConsumerCheck

namespace FileSystem

/-! ## Over links -/

/-- The steps lead from a location to `w`, which is no refusal, over at most a number of links. -/
inductive Followed (fs : FileSystem) (ending : Ending) :
    Nat → Location → List Step → Walked → Prop where
  | done {links place steps w} (h : Advanced fs ending place steps w)
      (hlink : ∀ d t rest, w ≠ .link d t rest) : Followed fs ending links place steps w
  | across {links place steps dir t rest w} (h : Advanced fs ending place steps (.link dir t rest))
      (hrest : Followed fs ending links (if t.isAbsolute then [] else dir) (t.steps ++ rest) w) :
      Followed fs ending (links + 1) place steps w

section Followed

variable {fs fs' : FileSystem} {ending : Ending} {links : Nat} {place q : Location}
  {steps : List Step} {w : Walked}

theorem Followed.of_follow (h : fs.follow ending links place steps = w)
    (hw : ∀ e, w ≠ .refused e) : Followed fs ending links place steps w := by
  induction links generalizing place steps with
  | zero =>
    unfold follow at h
    split at h
    · exact absurd h.symm (hw _)
    · rename_i hsucc
      cases hsucc
    · rename_i hnone _
      refine .done (.of_advance h hw) ?_
      intro d t rest hlink
      exact hnone d t rest (h.trans hlink) rfl
  | succ links ih =>
    unfold follow at h
    split at h
    · rename_i hzero
      cases hzero
    · rename_i hadv hsucc
      cases hsucc
      exact .across (.of_advance hadv (by simp)) (ih h)
    · rename_i hsome
      refine .done (.of_advance h hw) ?_
      intro d t rest hlink
      exact hsome d t rest links (h.trans hlink) rfl

theorem Followed.follow_eq (h : Followed fs ending links place steps w) :
    fs.follow ending links place steps = w := by
  induction h with
  | done h hlink =>
    unfold follow
    rw [h.advance_eq]
    split
    · exact absurd rfl (hlink _ _ _)
    · exact absurd rfl (hlink _ _ _)
    · rfl
  | across h _ ih =>
    unfold follow
    rw [h.advance_eq]
    exact ih

/-- Where each way up to a link is also one in other files, so is a way over links. -/
theorem Followed.transfer {ending' : Ending} (h : Followed fs ending links place steps (.found q))
    (hstep : ∀ place steps w, (∀ d n s, w ≠ .missing d n s) → Advanced fs ending place steps w →
      Advanced fs' ending' place steps w) :
    Followed fs' ending' links place steps (.found q) := by
  generalize hw : Walked.found q = w at h ⊢
  induction h with
  | done h hlink =>
    subst hw
    exact .done (hstep _ _ _ (by simp) h) hlink
  | across h _ ih => exact .across (hstep _ _ _ (by simp) h) (ih hw)

theorem Followed.get?_eq_none {dir : Location} {n : Bytes} {slash : Bool}
    (h : Followed fs ending links place steps (.missing dir n slash))
    (hend : ending = .created → slash = false) : fs.get? (dir ++ [n]) = none := by
  generalize hw : Walked.missing dir n slash = w at h
  induction h with
  | done h _ =>
    subst hw
    exact h.get?_eq_none hend
  | across _ _ ih => exact ih hw

/-- **What is made where a path led to no entry is what the path leads to.** -/
theorem Followed.made (hk : Keeps fs fs') {dir : Location} {n : Bytes} {slash : Bool}
    {tail : List Step} (h : Followed fs ending links place steps (.missing dir n slash))
    (hend : ending = .created → slash = false) {e : Entry} (he : fs'.get? (dir ++ [n]) = some e)
    (hlink : ∀ t, e ≠ .link t) (htail : ∀ s ∈ tail, s = .slash)
    (hdir : slash = true ∨ tail ≠ [] → ∃ m, e = .directory m) :
    Followed fs' .through links place (steps ++ tail) (.found (dir ++ [n])) := by
  generalize hw : Walked.missing dir n slash = w at h
  induction h with
  | done h _ =>
    subst hw
    exact .done (h.made hk hend he hlink htail hdir) (by simp)
  | across h _ ih =>
    have hrest := ih hw
    rw [List.append_assoc] at hrest
    exact .across (h.link_append hk tail) hrest

end Followed

end FileSystem

/-! ## Paths -/

namespace Path

/-- Where a path begins: at the root, or at the working directory. -/
def start (wd : Location) (p : Path) : Location := if p.isAbsolute then [] else wd

/-- The octets of a path do not keep it from being followed. -/
def Taken (p : Path) : Prop :=
  0 ∉ p.octets ∧ p.octets ≠ [] ∧ p.octets.length < FileSystem.maxPath

end Path

namespace FileSystem

variable {fs fs' : FileSystem} {ending : Ending} {wd place q : Location} {p : Path} {w : Walked}

theorem walk_ok_iff : fs.walk wd ending p = .ok w ↔
    p.Taken ∧ fs.follow ending maxLinks (p.start wd) p.steps = w ∧ ∀ e, w ≠ .refused e := by
  unfold walk Path.Taken Path.start
  by_cases hzero : 0 ∈ p.octets
  · simp [hzero]
  by_cases hnil : p.octets = []
  · simp [hnil]
  by_cases hlen : maxPath ≤ p.octets.length
  · simp [hzero, hnil, hlen, Nat.not_lt.2 hlen]
  have hlt := Nat.lt_of_not_le hlen
  simp only [List.contains_eq_mem, hzero, decide_false, Bool.false_eq_true, if_false, hnil, hlen,
    not_false_eq_true, ne_eq, hlt, and_self, true_and]
  split
  · rename_i e he
    simp only [reduceCtorEq, false_iff, not_and, he]
    rintro rfl h
    exact h e rfl
  · rename_i hne
    rw [Except.ok.injEq, iff_self_and]
    rintro rfl
    exact hne

theorem locate_ok_iff : fs.locate wd p = .ok q ↔
    p.Taken ∧ fs.follow .through maxLinks (p.start wd) p.steps = .found q := by
  unfold locate
  cases h : fs.walk wd .through p with
  | error e =>
    have hne : ¬(p.Taken ∧ fs.follow .through maxLinks (p.start wd) p.steps = .found q) := by
      rintro ⟨ht, hf⟩
      have := walk_ok_iff.2 ⟨ht, hf, by simp⟩
      rw [h] at this
      cases this
    simpa [bind, Except.bind] using hne
  | ok w =>
    obtain ⟨ht, hf, -⟩ := walk_ok_iff.1 h
    rw [hf]
    cases w <;> simp [bind, Except.bind, Walked.place, ht]

/-- **What a path led to, it still leads to after a change that takes nothing away.** -/
theorem Keeps.locate (hk : Keeps fs fs') (h : fs.locate wd p = .ok q) :
    fs'.locate wd p = .ok q := by
  obtain ⟨ht, hf⟩ := locate_ok_iff.1 h
  exact locate_ok_iff.2 ⟨ht, (Followed.transfer (.of_follow hf (by simp))
    fun _ _ _ hw hadv => hk.advanced hadv hw).follow_eq⟩

theorem stat_of_locate (h : fs.locate wd p = .ok q) {e : Entry} (he : fs.get? q = some e) :
    fs.stat wd p = .ok e := by
  unfold stat
  simp [h, he, bind, Except.bind]

theorem locate_of_stat {e : Entry} (h : fs.stat wd p = .ok e) :
    ∃ q, fs.locate wd p = .ok q ∧ fs.get? q = some e := by
  unfold stat at h
  cases hl : fs.locate wd p with
  | error _ => simp [hl, bind, Except.bind] at h
  | ok q =>
    simp only [hl, bind, Except.bind] at h
    split at h
    · cases h
      exact ⟨q, rfl, ‹_›⟩
    · cases h

theorem any_stat_iff (kind : Entry → Bool) : (fs.stat wd p).toOption.any kind = true ↔
    ∃ q e, fs.locate wd p = .ok q ∧ fs.get? q = some e ∧ kind e = true := by
  constructor
  · intro h
    cases hstat : fs.stat wd p with
    | error _ =>
      rw [hstat] at h
      cases h
    | ok e =>
      rw [hstat] at h
      obtain ⟨q, hlocate, he⟩ := locate_of_stat hstat
      exact ⟨q, e, hlocate, he, h⟩
  · rintro ⟨q, e, hlocate, he, hkind⟩
    rw [stat_of_locate hlocate he]
    exact hkind

/-- A path leads to a regular file if one stands where it leads. -/
theorem isFile_iff : fs.isFile wd p = true ↔ ∃ q contents permissions,
    fs.locate wd p = .ok q ∧ fs.get? q = some (.file contents permissions) := by
  refine (any_stat_iff Entry.isFile).trans ⟨?_, ?_⟩
  · rintro ⟨q, e, hlocate, he, hkind⟩
    cases e with
    | file contents permissions => exact ⟨q, contents, permissions, hlocate, he⟩
    | directory | link | device => cases hkind
  · rintro ⟨q, contents, permissions, hlocate, he⟩
    exact ⟨q, _, hlocate, he, rfl⟩

/-- A path leads to a directory if one stands where it leads. -/
theorem isDirectory_iff : fs.isDirectory wd p = true ↔ ∃ q permissions,
    fs.locate wd p = .ok q ∧ fs.get? q = some (.directory permissions) := by
  refine (any_stat_iff Entry.isDirectory).trans ⟨?_, ?_⟩
  · rintro ⟨q, e, hlocate, he, hkind⟩
    cases e with
    | directory permissions => exact ⟨q, permissions, hlocate, he⟩
    | file | link | device => cases hkind
  · rintro ⟨q, permissions, hlocate, he⟩
    exact ⟨q, _, hlocate, he, rfl⟩

/-- A location is granted if the medium does not refuse it and the permissions allow it. -/
theorem grant_ok_iff {allowed : Bool} : fs.grant place allowed = .ok q ↔
    fs.medium.refusal? q = none ∧ allowed = true ∧ place = q := by
  unfold grant
  constructor
  · intro h
    split at h
    · cases h
    · rename_i hmedium
      split at h
      · cases h
        exact ⟨hmedium, ‹_›, rfl⟩
      · cases h
  · rintro ⟨hmedium, hallowed, rfl⟩
    simp only [hmedium, hallowed, if_true]

/-- A path can be written to where it leads to an entry that can be, or to the name of a new one. -/
theorem target_ok_iff : fs.target wd p = .ok q ↔ fs.medium.refusal? q = none ∧
    ((fs.walk wd .created p = .ok (.found q) ∧ ∃ e, fs.get? q = some e ∧ e.Writable) ∨
      ∃ dir n, fs.walk wd .created p = .ok (.missing dir n false) ∧ fs.mayChangeAt dir = true ∧
        dir ++ [n] = q) := by
  constructor
  · intro h
    unfold target at h
    split at h
    · rename_i place hwalk
      split at h
      · cases h
      · cases h
      · rename_i e hdir hterminal he
        obtain ⟨hmedium, hwrite, rfl⟩ := grant_ok_iff.1 h
        refine ⟨hmedium, .inl ⟨hwalk, e, he, ?_, hterminal, hwrite⟩⟩
        cases e with
        | directory m => exact absurd rfl (hdir m)
        | file _ _ => rfl
        | link _ => rfl
        | device _ => rfl
      · cases h
    · rename_i dir n slash hwalk
      split at h
      · cases h
      · rename_i hslash
        rw [Bool.not_eq_true] at hslash
        subst hslash
        obtain ⟨hmedium, hchange, rfl⟩ := grant_ok_iff.1 h
        exact ⟨hmedium, .inr ⟨dir, n, hwalk, hchange, rfl⟩⟩
    · cases h
    · cases h
  · rintro ⟨hmedium, ⟨hwalk, e, he, hwritable⟩ | ⟨dir, n, hwalk, hchange, rfl⟩⟩
    · have hgrant : fs.grant q e.permissions.mayWrite = .ok q :=
        grant_ok_iff.2 ⟨hmedium, hwritable.mayWrite, rfl⟩
      unfold target
      rw [hwalk]
      dsimp only
      rw [he]
      cases e with
      | directory _ => cases hwritable.notDirectory
      | file _ _ => exact hgrant
      | link _ => exact hgrant
      | device d =>
        cases d with
        | terminal => exact absurd rfl hwritable.notTerminal
        | null | zeros | full | pipe => exact hgrant
    · unfold target
      rw [hwalk]
      exact grant_ok_iff.2 ⟨hmedium, hchange, rfl⟩

/-- Writing to a path changes the file that it leads to, or makes one where it leads to no entry. -/
theorem target_cases (h : fs.target wd p = .ok q) :
    (fs.locate wd p = .ok q ∧ ∃ e, fs.get? q = some e ∧ e.Writable) ∨
      fs.get? q = none ∧ ∃ dir n, fs.walk wd .created p = .ok (.missing dir n false) ∧
        fs.mayChangeAt dir = true ∧ q = dir ++ [n] := by
  obtain ⟨-, ⟨hwalk, hentry⟩ | ⟨dir, n, hwalk, hchange, rfl⟩⟩ := target_ok_iff.1 h
  · obtain ⟨ht, hf, -⟩ := walk_ok_iff.1 hwalk
    refine .inl ⟨locate_ok_iff.2 ⟨ht, ?_⟩, hentry⟩
    exact (Followed.transfer (.of_follow hf (by simp)) fun _ _ _ hw hadv => hadv.through hw).follow_eq
  · obtain ⟨-, hf, -⟩ := walk_ok_iff.1 hwalk
    exact .inr ⟨(Followed.of_follow hf (by simp)).get?_eq_none (fun _ => rfl), dir, n, hwalk,
      hchange, rfl⟩

/-- What is written to is a file unless it is a link or a device. -/
theorem isFile_of_target (h : fs.target wd p = .ok q) (hlink : ∀ t, fs.get? q ≠ some (.link t))
    (hdevice : ∀ d, fs.get? q ≠ some (.device d)) {e : Entry} (he : fs.get? q = some e) :
    e.isFile = true := by
  rcases target_cases h with ⟨-, e', he', hwritable⟩ | ⟨hnone, -⟩
  · rw [he', Option.some.injEq] at he
    subst he
    cases e' with
    | file _ _ => rfl
    | directory _ => cases hwritable.notDirectory
    | link t => exact absurd he' (hlink t)
    | device d => exact absurd he' (hdevice d)
  · rw [hnone] at he
    cases he

/-- What is written to has names only, if its last name is one. -/
theorem named_of_target (h : fs.target wd p = .ok q) (hlast : ∀ n ∈ q.getLast?, isName n = true) :
    q.all isName = true := by
  rcases target_cases h with ⟨-, e, he, -⟩ | ⟨-, dir, n, -, hchange, rfl⟩
  · exact named_of_get? he
  · have hdir : dir.all isName = true := by
      unfold mayChangeAt at hchange
      cases he : fs.get? dir with
      | none => simp [he] at hchange
      | some e => exact named_of_get? he
    rw [List.all_append, hdir]
    simpa using hlast

theorem locate_of_target (h : fs.target wd p = .ok q) (hk : Keeps fs fs') {e : Entry}
    (he : fs'.get? q = some e) (hlink : ∀ t, e ≠ .link t) : fs'.locate wd p = .ok q := by
  rcases target_cases h with ⟨hlocate, -⟩ | ⟨-, dir, n, hwalk, -, rfl⟩
  · exact hk.locate hlocate
  · obtain ⟨ht, hf, -⟩ := walk_ok_iff.1 hwalk
    have hmade : Followed fs' .through maxLinks (p.start wd) (p.steps ++ []) (.found (dir ++ [n])) :=
      .made hk (.of_follow hf (by simp)) (fun _ => rfl) he hlink (by simp) (by simp)
    rw [List.append_nil] at hmade
    exact locate_ok_iff.2 ⟨ht, hmade.follow_eq⟩

end FileSystem

/-! ## Ways without links -/

/-- Where a step leads if no link is on it. -/
def Step.next (place : Location) : Step → Location
  | .here => place
  | .slash => place
  | .parent => place.dropLast
  | .name n => place ++ [n]

/-- The locations that steps pass, from the first to the last. -/
def Step.passed (place : Location) : List Step → List Location
  | [] => [place]
  | step :: rest => place :: passed (step.next place) rest

namespace Path

/-- Where a path leads by its steps alone. -/
def lexical (wd : Location) (p : Path) : Location := p.steps.foldl Step.next (p.start wd)

/-- What a path passes by its steps alone. -/
def trail (wd : Location) (p : Path) : List Location := Step.passed (p.start wd) p.steps

end Path

namespace FileSystem

variable {fs : FileSystem} {ending : Ending} {wd place q : Location} {steps : List Step} {p : Path}
  {w : Walked}

/-- The location that steps led to, whether or not something is there. -/
def Walked.place? : Walked → Option Location
  | .found place => some place
  | .missing dir name _ => some (dir ++ [name])
  | .link .. => none
  | .refused _ => none

theorem mem_passed_self (place : Location) (steps : List Step) :
    place ∈ Step.passed place steps := by
  cases steps <;> exact List.mem_cons_self

theorem Advanced.lexical (h : Advanced fs ending place steps w)
    (hlink : ∀ q ∈ Step.passed place steps, ∀ t, fs.get? q ≠ some (.link t)) :
    w.place? = some (steps.foldl Step.next place) := by
  induction h with
  | done => rfl
  | slash _ _ ih => exact ih fun q hq => hlink q (List.mem_cons_of_mem _ hq)
  | here _ _ _ ih => exact ih fun q hq => hlink q (List.mem_cons_of_mem _ hq)
  | parent _ _ _ ih => exact ih fun q hq => hlink q (List.mem_cons_of_mem _ hq)
  | name _ _ _ _ _ _ _ ih => exact ih fun q hq => hlink q (List.mem_cons_of_mem _ hq)
  | link _ _ _ _ hentry _ =>
    exact absurd hentry (hlink _ (List.mem_cons_of_mem _ (mem_passed_self ..)) _)
  | itself _ _ _ hentry _ =>
    exact absurd hentry (hlink _ (List.mem_cons_of_mem _ (mem_passed_self ..)) _)
  | missing _ _ _ _ => rfl
  | missingSlash _ _ _ _ _ => rfl
  | createdSlash _ _ _ => rfl

/-- **A path that passes no link leads where its steps alone do.** -/
theorem walk_lexical (h : fs.walk wd ending p = .ok w)
    (hlink : ∀ q ∈ p.trail wd, ∀ t, fs.get? q ≠ some (.link t)) :
    w.place? = some (p.lexical wd) := by
  obtain ⟨-, hf, hw⟩ := walk_ok_iff.1 h
  cases Followed.of_follow hf hw with
  | done hadv _ => exact hadv.lexical hlink
  | across hadv _ => cases hadv.lexical hlink

theorem locate_lexical (h : fs.locate wd p = .ok q)
    (hlink : ∀ q ∈ p.trail wd, ∀ t, fs.get? q ≠ some (.link t)) : q = p.lexical wd := by
  obtain ⟨ht, hf⟩ := locate_ok_iff.1 h
  exact Option.some.inj (walk_lexical (walk_ok_iff.2 ⟨ht, hf, by simp⟩) hlink)

theorem target_lexical (h : fs.target wd p = .ok q)
    (hlink : ∀ q ∈ p.trail wd, ∀ t, fs.get? q ≠ some (.link t)) : q = p.lexical wd := by
  rcases target_cases h with ⟨hlocate, -⟩ | ⟨-, dir, n, hwalk, -, rfl⟩
  · exact locate_lexical hlocate hlink
  · exact Option.some.inj (walk_lexical hwalk hlink)

end FileSystem

end ConsumerCheck
