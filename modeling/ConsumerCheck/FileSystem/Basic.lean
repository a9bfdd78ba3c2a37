import ConsumerCheck.FileSystem.Error
import ConsumerCheck.FileSystem.Permissions

/-!
# File systems

A file system assigns an entry to each location: a regular file, a directory, a symbolic link or a device. A
location lists the names that lead to it from the root, through directories only. One file may have several
locations, which then hold the same.

* `Medium` — what the entries do not say: where nothing can be made, and which copies break off;
* `FileSystem.get?` — the entry at a location; the root is always a directory;
* `FileSystem.put`, `FileSystem.remove` — one entry set, one location cleared with all below it;
* `FileSystem.rewrite`, `FileSystem.share` — a file changed at all its locations, and given one more;
* `FileSystem.below` — what a walk from a directory through directories reaches.

Principal results: `get?_put_self` and `get?_put_of_ne` — setting an entry changes that entry and no
other.
-/

namespace ConsumerCheck

/-- The names that lead from the root to a place. -/
abbrev Location := List Bytes

/-- What gives and takes octets without keeping them. -/
inductive Device where
  /-- Takes everything and gives nothing. -/
  | null
  /-- Takes everything and gives zeros without end. -/
  | zeros
  /-- Has no room, and gives zeros without end. -/
  | full
  /-- The terminal, which no process here has. -/
  | terminal
  /-- One end of a pipe. -/
  | pipe
  deriving DecidableEq, Repr

/-- What stands at a location. -/
inductive Entry where
  | file (contents : Bytes) (permissions : Permissions)
  | directory (permissions : Permissions)
  | link (target : Path)
  | device (kind : Device)
  deriving DecidableEq, Repr

/-- Whether an entry is a directory. -/
def Entry.isDirectory : Entry → Bool
  | directory _ => true
  | _ => false

/-- Whether an entry is a regular file. -/
def Entry.isFile : Entry → Bool
  | file .. => true
  | _ => false

/-- The permissions of an entry. Links and devices deny nothing. -/
def Entry.permissions : Entry → Permissions
  | file _ permissions => permissions
  | directory permissions => permissions
  | link _ => ⟨0o777⟩
  | device _ => ⟨0o666⟩

/-- An entry with other permissions. Those of links and devices do not change. -/
def Entry.withPermissions (permissions : Permissions) : Entry → Entry
  | file contents _ => .file contents permissions
  | directory _ => .directory permissions
  | entry => entry

/-- The contents that can be read from an entry. -/
def Entry.read : Entry → Except OsError Bytes
  | .file contents permissions => if permissions.mayRead then .ok contents else .error .permissionDenied
  | .directory permissions => .error (if permissions.mayRead then .isDirectory else .permissionDenied)
  | .link _ => .error .tooManyLinks
  | .device .terminal => .error .noDevice
  | .device _ => .ok []

/-- The longest name that a directory can hold. -/
def FileSystem.maxName : Nat := 255

/-- Whether a directory can hold a name: `.` and `..` have a meaning of their own, the slash separates names
and the octet zero ends a path. -/
def isName (name : Bytes) : Bool :=
  name != [] && name != Path.dot && name != Path.dotDot && decide (name.length ≤ FileSystem.maxName) &&
    !name.contains Path.slash && !name.contains 0

/-- How much of a copy is done. -/
inductive CopyProgress where
  /-- The destination is open and empty. A new one has the permissions of the source that this mask leaves. -/
  | opened (mask : Nat)
  /-- The destination has the permissions of the source and so many octets of it. -/
  | received (count : Nat)
  deriving DecidableEq, Repr

/-- A copy that does not come to its end. -/
structure BrokenCopy where
  progress : CopyProgress
  cause : IoError
  deriving DecidableEq, Repr

/-- What stands in the way of a change though nothing in the entries does: no room, a limit, a fault of the
disk, another owner. -/
structure Medium where
  /-- Why nothing is made at a location, nor opened there to be written. -/
  refusal? : Location → Option OsError
  /-- How a copy of these contents to a path breaks off after its destination was opened. -/
  breakOff? : Path → Bytes → Option BrokenCopy

/-- A medium on which everything succeeds. -/
def Medium.sound : Medium := ⟨fun _ => none, fun _ _ => none⟩

/-- The entries of a file system other than the root, each location at most once and made of names that
directories can hold, the sets of locations that belong to one file, and the medium that all this is on. -/
structure FileSystem where
  entries : List (Location × Entry)
  shared : List (List Location)
  medium : Medium
  nodup : (entries.map (·.1)).Nodup
  named : ∀ place ∈ entries.map (·.1), place.all isName = true

namespace FileSystem

/-- The file system that has nothing but the root, on a sound medium. -/
def empty : FileSystem := ⟨[], [], .sound, by simp, by simp⟩

instance : Inhabited FileSystem := ⟨empty⟩

/-- The entry at a location. -/
def get? (fs : FileSystem) (place : Location) : Option Entry :=
  if place = [] then some (.directory .folder) else fs.entries.lookup place

/-- `entries` with `entry` at `place`, in the place of the entry there or at the end. -/
def putIn (place : Location) (entry : Entry) : List (Location × Entry) → List (Location × Entry)
  | [] => [(place, entry)]
  | (p, e) :: rest =>
    if p = place then (place, entry) :: rest else (p, e) :: putIn place entry rest

theorem map_fst_putIn (place : Location) (entry : Entry) (es : List (Location × Entry)) :
    (putIn place entry es).map (·.1) =
      if place ∈ es.map (·.1) then es.map (·.1) else es.map (·.1) ++ [place] := by
  induction es with
  | nil => simp [putIn]
  | cons head rest ih =>
    obtain ⟨p, e⟩ := head
    by_cases h : p = place
    · simp [putIn, h]
    · by_cases hm : place ∈ rest.map (·.1)
      · rw [if_pos hm] at ih
        rw [if_pos (by simp only [List.map_cons, List.mem_cons]; exact Or.inr hm)]
        simp [putIn, h, ih]
      · rw [if_neg hm] at ih
        rw [if_neg (by
          simp only [List.map_cons, List.mem_cons, not_or]
          exact ⟨fun hp => h hp.symm, hm⟩)]
        simp [putIn, h, ih]

theorem nodup_putIn {place : Location} {entry : Entry} {es : List (Location × Entry)}
    (h : (es.map (·.1)).Nodup) : ((putIn place entry es).map (·.1)).Nodup := by
  rw [map_fst_putIn]
  split
  · exact h
  · rename_i hm
    rw [List.nodup_append]
    refine ⟨h, by simp, ?_⟩
    intro a ha b hb hab
    simp only [List.mem_singleton] at hb
    exact hm (hb ▸ hab ▸ ha)

theorem named_putIn {place : Location} {entry : Entry} {es : List (Location × Entry)}
    (hplace : place.all isName = true) (h : ∀ p ∈ es.map (·.1), p.all isName = true) :
    ∀ p ∈ (putIn place entry es).map (·.1), p.all isName = true := by
  intro p hp
  rw [map_fst_putIn] at hp
  split at hp
  · exact h p hp
  · rcases List.mem_append.1 hp with hp | hp
    · exact h p hp
    · simp only [List.mem_singleton] at hp
      exact hp ▸ hplace

/-- The file system with `entry` at `place`. What is no name is not made. -/
def put (fs : FileSystem) (place : Location) (entry : Entry) : FileSystem :=
  if h : place.all isName = true then
    ⟨putIn place entry fs.entries, fs.shared, fs.medium, nodup_putIn fs.nodup, named_putIn h fs.named⟩
  else fs

/-- The file system without `place` and all below it. -/
def remove (fs : FileSystem) (place : Location) : FileSystem :=
  ⟨fs.entries.filter fun (p, _) => !place.isPrefixOf p,
    fs.shared.map fun places => places.filter fun p => !place.isPrefixOf p, fs.medium,
    fs.nodup.sublist (List.filter_sublist.map _),
    fun p hp => fs.named p ((List.filter_sublist.map _).subset hp)⟩

theorem lookup_putIn_self (place : Location) (entry : Entry) (es : List (Location × Entry)) :
    (putIn place entry es).lookup place = some entry := by
  induction es with
  | nil => simp [putIn]
  | cons head rest ih =>
    obtain ⟨p, e⟩ := head
    by_cases h : p = place
    · simp [putIn, h]
    · have h' : (place == p) = false := by simpa using fun hp => h hp.symm
      simp [putIn, h, List.lookup_cons, h', ih]

theorem lookup_putIn_of_ne {place other : Location} (entry : Entry)
    (es : List (Location × Entry)) (hne : other ≠ place) :
    (putIn place entry es).lookup other = es.lookup other := by
  induction es with
  | nil =>
    have h' : (other == place) = false := by simpa using hne
    simp [putIn, List.lookup_cons, h']
  | cons head rest ih =>
    obtain ⟨p, e⟩ := head
    by_cases h : p = place
    · subst h
      have h' : (other == p) = false := by simpa using hne
      simp [putIn, List.lookup_cons, h']
    · by_cases ho : other = p
      · subst ho
        simp [putIn, h]
      · have h' : (other == p) = false := by simpa using ho
        simp [putIn, h, List.lookup_cons, h', ih]

/-- After an entry is set below the root, it is there. -/
theorem get?_put_self (fs : FileSystem) {place : Location} (entry : Entry) (h : place ≠ [])
    (hn : place.all isName = true) : (fs.put place entry).get? place = some entry := by
  simp only [get?, put, dif_pos hn, if_neg h, lookup_putIn_self]

/-- Setting an entry changes no other. -/
theorem get?_put_of_ne (fs : FileSystem) {place other : Location} (entry : Entry)
    (h : other ≠ place) : (fs.put place entry).get? other = fs.get? other := by
  unfold put
  split
  · simp only [get?, lookup_putIn_of_ne entry fs.entries h]
  · rfl

/-- The locations of the file at a location. -/
def locationsOf (fs : FileSystem) (place : Location) : List Location :=
  (fs.shared.find? (·.contains place)).getD [place]

/-- The file system with `entry` at all locations of the file at `place`. -/
def rewrite (fs : FileSystem) (place : Location) (entry : Entry) : FileSystem :=
  (fs.locationsOf place).foldl (fun fs p => fs.put p entry) fs

/-- The file system in which the file at `place` has one more location, where nothing is yet. -/
def share (fs : FileSystem) (place other : Location) : FileSystem :=
  match fs.get? place with
  | none => fs
  | some entry =>
    let places := fs.locationsOf place
    { fs.put other entry with shared := (other :: places) :: fs.shared.filter (· ≠ places) }

/-- Whether a location is a directory. -/
def isDirectoryAt (fs : FileSystem) (place : Location) : Bool :=
  (fs.get? place).any Entry.isDirectory

/-- Whether each name of `names` but the last leads from `place` to a directory. -/
def descends (fs : FileSystem) (place : Location) : List Bytes → Bool
  | [] => true
  | [_] => true
  | name :: names => fs.isDirectoryAt (place ++ [name]) && fs.descends (place ++ [name]) names

/-- The entries that a walk from `place` reaches through directories, each with the names that lead to
it from there. -/
def below (fs : FileSystem) (place : Location) : List (List Bytes × Entry) :=
  fs.entries.filterMap fun (p, entry) =>
    if place.isPrefixOf p then
      let names := p.drop place.length
      if names ≠ [] && fs.descends place names then some (names, entry) else none
    else none

end FileSystem

end ConsumerCheck
