import ConsumerCheck.Proofs.FileSystem.Directories

/-!
# Files with several locations

A file may have several locations, and a write reaches all of them. What a copy does to a file system
in which the locations of each file hold the same is then said in one sentence: all locations of the
destination hold the copy, and no other location has changed.

* `Consistent` — what holds of every file system that an operating system keeps;
* `Replaced` — some locations hold a new entry, and nothing else has changed.

Principal results: `copyTo_replaced` — a copy replaces the destination at all its locations;
`Replaced.consistent`, `Replaced.keeps` — such a change leaves a consistent file system, and takes nothing
away.
-/

namespace ConsumerCheck.FileSystem

variable {fs fs' : FileSystem} {place source q : Location} {entry : Entry}

/-- The locations of one file belong together and hold the same, a location where nothing stands belongs
to itself alone, and no link leads over the octet zero. -/
structure Consistent (fs : FileSystem) : Prop where
  same : ∀ q, ∀ p ∈ fs.locationsOf q, fs.get? p = fs.get? q
  together : ∀ q, ∀ p ∈ fs.locationsOf q, fs.locationsOf p = fs.locationsOf q
  alone : ∀ q, fs.get? q = none → fs.locationsOf q = [q]
  targets : ∀ q t, fs.get? q = some (.link t) → 0 ∉ t.octets

theorem Consistent.mem_iff (h : fs.Consistent) {p : Location} :
    p ∈ fs.locationsOf q ↔ fs.locationsOf p = fs.locationsOf q :=
  ⟨h.together q p, fun heq => heq ▸ mem_locationsOf_self fs p⟩

/-- Where no file has more than one location and nothing is a link, the file system is consistent. -/
theorem Consistent.of_plain (hshared : fs.shared = [])
    (hlinks : ∀ e ∈ fs.entries, e.2.isLink = false) : fs.Consistent := by
  have halone : ∀ q, fs.locationsOf q = [q] := by
    intro q
    rw [locationsOf, hshared]
    rfl
  refine ⟨?_, ?_, fun q _ => halone q, fun q t ht => absurd ht (get?_ne_link hlinks q t)⟩
  · intro q p hp
    rw [halone, List.mem_singleton] at hp
    rw [hp]
  · intro q p hp
    rw [halone, List.mem_singleton] at hp
    rw [hp]

/-- A new entry stands at some locations, and nothing else has changed. -/
structure Replaced (places : List Location) (entry : Entry) (fs fs' : FileSystem) : Prop where
  new : ∀ q ∈ places, fs'.get? q = some entry
  old : ∀ q, q ∉ places → fs'.get? q = fs.get? q
  shared : fs'.shared = fs.shared
  medium : fs'.medium = fs.medium

/-! ## Overwriting a file -/

/-- A file, or a place for one, at locations that can all hold an entry. -/
def Storable (fs : FileSystem) (place : Location) : Prop :=
  ∀ p ∈ fs.locationsOf place, p ≠ [] ∧ p.all isName = true

theorem Storable.congr (h : fs.Storable place) (hshared : fs'.shared = fs.shared) :
    fs'.Storable place := by
  unfold Storable
  rw [locationsOf_congr hshared]
  exact h

/-- What can be written to: nothing yet, a file, or what keeps nothing. -/
theorem storable_of_file (h : fs.Consistent)
    (hnew : fs.get? place = none → place ≠ [] ∧ place.all isName = true)
    (hfile : ∀ e, fs.get? place = some e → e.isFile = true) : fs.Storable place := by
  cases he : fs.get? place with
  | none =>
    intro p hp
    rw [h.alone place he, List.mem_singleton] at hp
    exact hp ▸ hnew he
  | some e =>
    intro p hp
    have hp' := (h.same place p hp).trans he
    refine ⟨?_, named_of_get? hp'⟩
    rintro rfl
    cases hp'
    cases hfile _ he

/-- A file that is overwritten holds the new contents at all its locations, and nothing else has changed. -/
theorem overwrite_replaced (hstorable : fs.Storable place)
    (halone : fs.get? place = none → fs.locationsOf place = [place])
    (hfile : ∀ e, fs.get? place = some e → e.isFile = true) (contents : Bytes)
    (permissions : Permissions) :
    Replaced (fs.locationsOf place) (.file contents permissions) fs
      (fs.overwrite place contents permissions) := by
  refine ⟨?_, fun q hq => get?_overwrite_of_not_mem fs contents permissions hq, shared_overwrite ..,
    overwrite_fixed medium_put ..⟩
  intro q hq
  obtain ⟨hnil, hnamed⟩ := hstorable q hq
  unfold overwrite
  cases he : fs.get? place with
  | none =>
    rw [halone he, List.mem_singleton] at hq
    subst hq
    exact get?_put_self fs _ hnil hnamed
  | some e =>
    cases e with
    | file _ _ => exact get?_foldl_put_of_mem fs _ hq hnil hnamed
    | directory _ => cases hfile _ he
    | link _ => cases hfile _ he
    | device _ => cases hfile _ he

/-- What keeps nothing is not changed by what is written to it. -/
theorem overwrite_of_not_file (he : fs.get? place = some entry) (hfile : entry.isFile = false)
    (contents : Bytes) (permissions : Permissions) :
    fs.overwrite place contents permissions = fs := by
  unfold overwrite
  rw [he]
  cases entry with
  | file _ _ => cases hfile
  | directory _ => rfl
  | link _ => rfl
  | device _ => rfl

/-! ## A copy -/

/-- What a copy puts at its destination; a source that is the destination itself was emptied before it
is read. -/
def copied (fs : FileSystem) (source place : Location) (permissions : Permissions) : Entry :=
  .file (if source ∈ fs.locationsOf place then [] else fs.contentsAt source) permissions

section Emptied

variable (h : fs.Consistent) (hnew : fs.get? place = none → place ≠ [] ∧ place.all isName = true)
  (hfile : ∀ e, fs.get? place = some e → e.isFile = true)
include h hnew hfile

/-- A file that is emptied and then filled holds what it was filled with. -/
theorem overwrite_overwrite_replaced (contents : Bytes) (permissions : Permissions) :
    Replaced (fs.locationsOf place) (.file contents permissions) fs
      ((fs.overwrite place [] permissions).overwrite place contents permissions) := by
  have hstorable := storable_of_file h hnew hfile
  have hempty := overwrite_replaced hstorable (h.alone place) hfile [] permissions
  generalize fs.overwrite place [] permissions = emptied at hempty ⊢
  -- the destination is a file by now, and is overwritten once more
  have hself := hempty.new place (mem_locationsOf_self fs place)
  have hfilled := overwrite_replaced (hstorable.congr hempty.shared)
    (fun hnone => by simp [hself] at hnone)
    (fun e he => by
      rw [hself, Option.some.injEq] at he
      exact he ▸ rfl)
    contents permissions
  rw [locationsOf_congr hempty.shared] at hfilled
  exact ⟨hfilled.new, fun q hq => (hfilled.old q hq).trans (hempty.old q hq),
    hfilled.shared.trans hempty.shared, hfilled.medium.trans hempty.medium⟩

/-- **A copy stands afterwards at all locations of the destination, and nothing else has changed.** -/
theorem copyTo_replaced (source : Location) (permissions : Permissions) :
    Replaced (fs.locationsOf place) (fs.copied source place permissions) fs
      (fs.copyTo source place permissions) := by
  have hempty := overwrite_replaced (storable_of_file h hnew hfile) (h.alone place) hfile [] permissions
  have hcontents : fs.copied source place permissions =
      .file ((fs.overwrite place [] permissions).contentsAt source) permissions := by
    unfold copied contentsAt
    by_cases hsource : source ∈ fs.locationsOf place
    · rw [if_pos hsource, hempty.new source hsource]
    · rw [if_neg hsource, hempty.old source hsource]
  rw [hcontents]
  exact overwrite_overwrite_replaced h hnew hfile _ permissions

end Emptied

/-- A copy to what keeps nothing changes nothing. -/
theorem copyTo_of_not_file (he : fs.get? place = some entry) (hfile : entry.isFile = false)
    (source : Location) (permissions : Permissions) :
    fs.copyTo source place permissions = fs := by
  unfold copyTo
  rw [overwrite_of_not_file he hfile, overwrite_of_not_file he hfile]

/-! ## What a replacement keeps -/

theorem Replaced.consistent {places : List Location} (hr : Replaced places entry fs fs')
    (h : fs.Consistent) (hplaces : places = fs.locationsOf place ∨ places = [])
    (hfile : entry.isFile = true) : fs'.Consistent := by
  have hlocations := locationsOf_congr hr.shared
  have hmem : ∀ q p, p ∈ fs.locationsOf q → (p ∈ places ↔ q ∈ places) := by
    intro q p hp
    rcases hplaces with rfl | rfl
    · rw [h.mem_iff, h.mem_iff, h.together q p hp]
    · simp
  have hold : ∀ q e, fs'.get? q = some e → e.isFile = false → fs.get? q = some e := by
    intro q e he hnot
    by_cases hq : q ∈ places
    · rw [hr.new q hq, Option.some.injEq] at he
      rw [he, hnot] at hfile
      cases hfile
    · rw [← hr.old q hq, he]
  refine ⟨?_, ?_, ?_, fun q t ht => h.targets q t (hold q _ ht rfl)⟩
  · intro q p hp
    rw [hlocations] at hp
    by_cases hq : q ∈ places
    · rw [hr.new q hq, hr.new p ((hmem q p hp).2 hq)]
    · rw [hr.old q hq, hr.old p fun hp' => hq ((hmem q p hp).1 hp'), h.same q p hp]
  · intro q p hp
    rw [hlocations] at hp ⊢
    rw [hlocations, h.together q p hp]
  · intro q hq
    rw [hlocations]
    by_cases hplace : q ∈ places
    · rw [hr.new q hplace] at hq
      cases hq
    · rw [hr.old q hplace] at hq
      exact h.alone q hq

theorem Replaced.keeps {places : List Location} (hr : Replaced places entry fs fs')
    (hfile : entry.isFile = true)
    (hold : ∀ q ∈ places, ∀ e, fs.get? q = some e → e.isFile = true) : Keeps fs fs' where
  same q e he hnot := by
    rw [hr.old q, he]
    intro hq
    rw [hold q hq e he] at hnot
    cases hnot
  file q e he he' := by
    by_cases hq : q ∈ places
    · exact ⟨entry, hr.new q hq, hfile⟩
    · exact ⟨e, by rw [hr.old q hq, he], he'⟩
  links q t ht := by
    by_cases hq : q ∈ places
    · rw [hr.new q hq, Option.some.injEq] at ht
      rw [ht] at hfile
      cases hfile
    · rw [← hr.old q hq, ht]

/-- Making directories keeps a file system consistent. -/
theorem Grown.consistent {wd : Location} {paths : List Path} (hg : Grown wd paths fs fs')
    (h : fs.Consistent) : fs'.Consistent := by
  have hlocations := locationsOf_congr hg.shared
  refine ⟨?_, ?_, ?_, fun q t ht => h.targets q t (hg.keeps.links q t ht)⟩
  · intro q p hp
    rw [hlocations] at hp
    have hsame := h.same q p hp
    -- a directory appeared where nothing stood, and such a location is alone
    cases hq : fs.get? q with
    | none =>
      rw [h.alone q hq, List.mem_singleton] at hp
      rw [hp]
    | some e => rw [hg.kept (hsame.trans hq), hg.kept hq]
  · intro q p hp
    rw [hlocations] at hp ⊢
    rw [hlocations, h.together q p hp]
  · intro q hq
    rw [hlocations]
    refine h.alone q ?_
    cases he : fs.get? q with
    | none => rfl
    | some e =>
      rw [hg.kept he] at hq
      cases hq

end ConsumerCheck.FileSystem
