import ConsumerCheck.FileSystem.Operation
import ConsumerCheck.Proofs.Lookup

/-!
# What a change leaves alone

A write reaches the locations of one file, and so does a copy: what stands anywhere else is as before, and so
are the medium and which locations belong to one file.

* `changed` — where two file systems differ;
* `get?_overwrite_eq_or` — what a file that is overwritten changes to;
* `get?_copyTo_of_not_mem`, `shared_copyTo` — what a copy leaves alone;
* `get?_copyTo_self` — what a copy leaves at a location that is the only one of its file.
-/

namespace ConsumerCheck

/-- Whether an entry is a symbolic link. -/
def Entry.isLink : Entry → Bool
  | link _ => true
  | _ => false

/-- Whether an entry is a device. -/
def Entry.isDevice : Entry → Bool
  | device _ => true
  | _ => false

/-- An entry that can be opened and written to. -/
structure Entry.Writable (e : Entry) : Prop where
  notDirectory : e.isDirectory = false
  notTerminal : e ≠ .device .terminal
  mayWrite : e.permissions.mayWrite = true

namespace FileSystem

variable {fs fs' : FileSystem} {place q : Location} {entry : Entry}

theorem mem_entries_of_get? (h : fs.get? q = some entry) : q = [] ∨ (q, entry) ∈ fs.entries := by
  unfold get? at h
  split at h
  · exact .inl ‹_›
  · exact .inr (mem_of_lookup h)

/-- Where something stands, all names are names. -/
theorem named_of_get? (h : fs.get? q = some entry) : q.all isName = true := by
  rcases mem_entries_of_get? h with rfl | hmem
  · rfl
  · exact fs.named q (List.mem_map_of_mem hmem)

/-- Where no entry is a link, no location is one. -/
theorem get?_ne_link (h : ∀ e ∈ fs.entries, e.2.isLink = false) (q : Location) (t : Path) :
    fs.get? q ≠ some (.link t) := by
  intro ht
  rcases mem_entries_of_get? ht with rfl | hmem
  · cases ht
  · cases h _ hmem

/-- Where no entry is a device, no location is one. -/
theorem get?_ne_device (h : ∀ e ∈ fs.entries, e.2.isDevice = false) (q : Location) (d : Device) :
    fs.get? q ≠ some (.device d) := by
  intro hd
  rcases mem_entries_of_get? hd with rfl | hmem
  · cases hd
  · cases h _ hmem

/-- The locations where two file systems hold different things. -/
def changed (fs fs' : FileSystem) : List Location :=
  ((fs.entries ++ fs'.entries).map (·.1)).filter fun q => fs'.get? q ≠ fs.get? q

theorem mem_changed_iff : q ∈ fs.changed fs' ↔ fs'.get? q ≠ fs.get? q := by
  simp only [changed, List.mem_filter, decide_eq_true_eq, and_iff_right_iff_imp]
  intro hne
  rw [List.map_append, List.mem_append]
  -- where neither has an entry, both hold the same: nothing, or the root
  rcases he : fs.get? q with _ | e
  · rcases he' : fs'.get? q with _ | e'
    · exact absurd (he'.trans he.symm) hne
    · rcases mem_entries_of_get? he' with rfl | hmem
      · exact absurd rfl hne
      · exact .inr (List.mem_map_of_mem hmem)
  · rcases mem_entries_of_get? he with rfl | hmem
    · exact absurd rfl hne
    · exact .inl (List.mem_map_of_mem hmem)

/-! ## One entry -/

@[simp] theorem shared_put (fs : FileSystem) (place : Location) (entry : Entry) :
    (fs.put place entry).shared = fs.shared := by
  unfold put
  split <;> rfl

@[simp] theorem medium_put (fs : FileSystem) (place : Location) (entry : Entry) :
    (fs.put place entry).medium = fs.medium := by
  unfold put
  split <;> rfl

/-- An entry that is set changes at most to what it was set to. -/
theorem get?_put_eq_or (fs : FileSystem) (place q : Location) (entry : Entry) :
    (fs.put place entry).get? q = fs.get? q ∨
      q = place ∧ (fs.put place entry).get? q = some entry := by
  by_cases hq : q = place
  · by_cases hnil : place = []
    · subst hq
      subst hnil
      exact .inl rfl
    · by_cases hn : place.all isName = true
      · subst hq
        exact .inr ⟨rfl, get?_put_self fs entry hnil hn⟩
      · refine .inl ?_
        unfold put
        rw [dif_neg hn]
  · exact .inl (get?_put_of_ne fs entry hq)

/-! ## All locations of a file -/

theorem locationsOf_congr (h : fs'.shared = fs.shared) (place : Location) :
    fs'.locationsOf place = fs.locationsOf place := by
  unfold locationsOf
  rw [h]

theorem mem_locationsOf_self (fs : FileSystem) (place : Location) :
    place ∈ fs.locationsOf place := by
  unfold locationsOf
  cases h : fs.shared.find? (·.contains place) with
  | none => exact List.mem_singleton.2 rfl
  | some places => simpa using List.find?_some h

/-- Several entries that are set change at most to what they were set to. -/
theorem get?_foldl_put_eq_or (places : List Location) (fs : FileSystem) (q : Location)
    (entry : Entry) : (places.foldl (fun fs p => fs.put p entry) fs).get? q = fs.get? q ∨
      q ∈ places ∧ (places.foldl (fun fs p => fs.put p entry) fs).get? q = some entry := by
  induction places generalizing fs with
  | nil => exact .inl rfl
  | cons p places ih =>
    rw [List.foldl_cons]
    rcases ih (fs.put p entry) with hsame | ⟨hq, hnew⟩
    · rw [hsame]
      refine (get?_put_eq_or fs p q entry).imp_right ?_
      rintro ⟨rfl, hnew⟩
      exact ⟨List.mem_cons_self, hnew⟩
    · exact .inr ⟨List.mem_cons_of_mem p hq, hnew⟩

theorem get?_foldl_put_of_mem {places : List Location} (fs : FileSystem) (entry : Entry)
    (hq : q ∈ places) (hnil : q ≠ []) (hnamed : q.all isName = true) :
    (places.foldl (fun fs p => fs.put p entry) fs).get? q = some entry := by
  induction places generalizing fs with
  | nil => cases hq
  | cons p places ih =>
    rw [List.foldl_cons]
    rcases get?_foldl_put_eq_or places (fs.put p entry) q entry with hsame | ⟨-, hnew⟩
    · rcases List.mem_cons.1 hq with rfl | hq
      · rw [hsame, get?_put_self fs entry hnil hnamed]
      · exact ih _ hq
    · exact hnew

section Fixed

variable {α : Type} {f : FileSystem → α} (hf : ∀ fs place entry, f (fs.put place entry) = f fs)
include hf

/-- What one entry that is set leaves alone is left alone by all that only sets entries. -/
theorem foldl_put_fixed (places : List Location) (fs : FileSystem) (entry : Entry) :
    f (places.foldl (fun fs p => fs.put p entry) fs) = f fs := by
  induction places generalizing fs with
  | nil => rfl
  | cons p places ih => rw [List.foldl_cons, ih, hf]

theorem overwrite_fixed (fs : FileSystem) (place : Location) (contents : Bytes)
    (permissions : Permissions) : f (fs.overwrite place contents permissions) = f fs := by
  unfold overwrite
  split
  · exact hf ..
  · exact foldl_put_fixed hf ..
  · rfl

theorem copyTo_fixed (fs : FileSystem) (source place : Location) (permissions : Permissions) :
    f (fs.copyTo source place permissions) = f fs := by
  unfold copyTo
  dsimp only
  rw [overwrite_fixed hf, overwrite_fixed hf]

end Fixed

@[simp] theorem shared_overwrite (fs : FileSystem) (place : Location) (contents : Bytes)
    (permissions : Permissions) :
    (fs.overwrite place contents permissions).shared = fs.shared := overwrite_fixed shared_put ..

@[simp] theorem shared_copyTo (fs : FileSystem) (source place : Location)
    (permissions : Permissions) : (fs.copyTo source place permissions).shared = fs.shared :=
  copyTo_fixed shared_put ..

@[simp] theorem medium_copyTo (fs : FileSystem) (source place : Location)
    (permissions : Permissions) : (fs.copyTo source place permissions).medium = fs.medium :=
  copyTo_fixed medium_put ..

/-- A file that is overwritten changes at its locations, and at most to what it is overwritten with. -/
theorem get?_overwrite_eq_or (fs : FileSystem) (place q : Location) (contents : Bytes)
    (permissions : Permissions) :
    (fs.overwrite place contents permissions).get? q = fs.get? q ∨ q ∈ fs.locationsOf place ∧
      (fs.overwrite place contents permissions).get? q = some (.file contents permissions) := by
  unfold overwrite
  split
  · refine (get?_put_eq_or fs place q _).imp_right ?_
    rintro ⟨rfl, hnew⟩
    exact ⟨mem_locationsOf_self fs q, hnew⟩
  · exact get?_foldl_put_eq_or _ fs q _
  · exact .inl rfl

theorem get?_overwrite_of_not_mem (fs : FileSystem) (contents : Bytes) (permissions : Permissions)
    (h : q ∉ fs.locationsOf place) :
    (fs.overwrite place contents permissions).get? q = fs.get? q :=
  (get?_overwrite_eq_or fs place q contents permissions).resolve_right fun hq => h hq.1

theorem contentsAt_overwrite_of_not_mem (fs : FileSystem) (contents : Bytes)
    (permissions : Permissions) (h : q ∉ fs.locationsOf place) :
    (fs.overwrite place contents permissions).contentsAt q = fs.contentsAt q := by
  unfold contentsAt
  rw [get?_overwrite_of_not_mem fs contents permissions h]

/-- A file that is overwritten holds what it is overwritten with. -/
theorem get?_overwrite_of_file {contents : Bytes} {permissions : Permissions}
    (h : fs.get? q = some (.file contents permissions)) (contents' : Bytes)
    (permissions' : Permissions) :
    (fs.overwrite q contents' permissions').get? q = some (.file contents' permissions') := by
  have hnil : q ≠ [] := by
    rintro rfl
    cases h
  unfold overwrite
  rw [h]
  exact get?_foldl_put_of_mem fs _ (mem_locationsOf_self fs q) hnil (named_of_get? h)

/-- A copy changes the locations of one file. -/
theorem get?_copyTo_of_not_mem (fs : FileSystem) (source : Location) (permissions : Permissions)
    (h : q ∉ fs.locationsOf place) : (fs.copyTo source place permissions).get? q = fs.get? q := by
  unfold copyTo
  dsimp only
  rw [get?_overwrite_of_not_mem, get?_overwrite_of_not_mem _ _ _ h]
  rwa [locationsOf_congr (shared_overwrite ..)]

/-! ## A file with one location -/

theorem get?_copyTo_of_ne {other : Location} (halone : fs.locationsOf q = [q]) (source : Location)
    (permissions : Permissions) (hne : other ≠ q) :
    (fs.copyTo source q permissions).get? other = fs.get? other := by
  refine get?_copyTo_of_not_mem fs source permissions ?_
  rwa [halone, List.mem_singleton]

section Alone

variable (hnil : q ≠ []) (hnamed : q.all isName = true) (halone : fs.locationsOf q = [q])
include hnil hnamed halone

/-- A file that is overwritten, or made, holds what it is overwritten with. -/
theorem get?_overwrite_self (contents : Bytes) (permissions : Permissions)
    (hkind : ∀ e, fs.get? q = some e → e.isFile = true) :
    (fs.overwrite q contents permissions).get? q = some (.file contents permissions) := by
  unfold overwrite
  split
  · exact get?_put_self fs _ hnil hnamed
  · unfold rewrite
    rw [halone]
    exact get?_put_self fs _ hnil hnamed
  · rename_i e hfile he
    cases e with
    | file c m => exact absurd rfl (hfile c m)
    | directory _ => cases hkind _ he
    | link _ => cases hkind _ he
    | device _ => cases hkind _ he

/-- A copy to a file with one location, or to where nothing is, leaves there the contents of the
source with the permissions that were read with it. -/
theorem get?_copyTo_self {source : Location} (permissions : Permissions) (hsource : source ≠ q)
    (hkind : ∀ e, fs.get? q = some e → e.isFile = true) :
    (fs.copyTo source q permissions).get? q =
      some (.file (fs.contentsAt source) permissions) := by
  have hempty := get?_overwrite_self hnil hnamed halone [] permissions hkind
  have hcontents : (fs.overwrite q [] permissions).contentsAt source = fs.contentsAt source := by
    refine contentsAt_overwrite_of_not_mem fs [] permissions ?_
    rwa [halone, List.mem_singleton]
  unfold copyTo
  dsimp only
  rw [hcontents]
  exact get?_overwrite_of_file hempty _ permissions

end Alone

end FileSystem

end ConsumerCheck
