import ConsumerCheck.FileSystem.Seed
import ConsumerCheck.Proofs.FileSystem.Continuation
import ConsumerCheck.Proofs.FileSystem.Matching

/-!
# What a walk finds

A walk goes down through directories and over no link but the one that it may begin at, so no link keeps it from
ending or makes it come to one entry twice. What it finds is named from where it begins, and the names lead back
to the entries that it has come to.

* `FileSystem.TreeReadable` — the names in a directory can be read, and those in all directories that are
  reached from it.

Principal results: `findMatching_complete` — the walk finds exactly the files with names that match, each once
and in order; `treeReadable_of_open` — directories that may be read and entered can be read, on paths that are
not too long.
-/

namespace ConsumerCheck

namespace Path

theorem mem_octets_join {p q : Path} {b : UInt8} (h : b ∈ (p.join q).octets) :
    b ∈ p.octets ∨ b = slash ∨ b ∈ q.octets := by
  unfold join at h
  split at h
  · exact .inr (.inr h)
  · split at h
    · exact (List.mem_append.1 h).imp_right .inr
    · exact (List.mem_append.1 h).imp_right List.mem_cons.1

/-- The path of names ends in the last of them. -/
theorem fileName_extend_nil {names : List Bytes} (h : names.all isName = true) :
    ((⟨[]⟩ : Path).extend names).fileName = names.getLast? := by
  have hcomponents : ((⟨[]⟩ : Path).extend names).components = names.map .name :=
    components_extend ⟨[]⟩ h
  rw [fileName, hcomponents, List.getLast?_map]
  cases names.getLast? <;> rfl

end Path

namespace FileSystem

variable {fs : FileSystem} {wd place : Location} {base : Path} {names : List Bytes} {pattern : Pattern}
  {r : Path} {found : List Path}

/-! ## Entries and their names -/

theorem descends_cons_cons (place : Location) (name next : Bytes) (names : List Bytes) :
    fs.descends place (name :: next :: names) =
      (fs.isDirectoryAt (place ++ [name]) && fs.descends (place ++ [name]) (next :: names)) := rfl

theorem reaches_iff : fs.Reaches place names ↔ ∃ e, (names, e) ∈ fs.below place := by
  simp only [mem_below]
  constructor
  · intro h
    induction h with
    | entry h => exact ⟨_, by simp, h, rfl⟩
    | @into place name m names h hrest ih =>
      obtain ⟨e, hne, he, hdescends⟩ := ih
      obtain ⟨next, others, rfl⟩ := List.exists_cons_of_ne_nil hne
      refine ⟨e, by simp, by simpa using he, ?_⟩
      rw [descends_cons_cons, hdescends, isDirectoryAt, h]
      rfl
  · rintro ⟨e, hne, he, hdescends⟩
    induction names generalizing place with
    | nil => exact absurd rfl hne
    | cons name names ih =>
      cases names with
      | nil => exact .entry he
      | cons next others =>
        rw [descends_cons_cons, Bool.and_eq_true] at hdescends
        obtain ⟨entry, hentry, hdir⟩ := (Option.any_eq_true _ _).1 hdescends.1
        have hrest := ih (by simp) (by simpa using he) hdescends.2
        cases entry with
        | directory m => exact .into hentry hrest
        | file | link | device => cases hdir

theorem nameMatches_iff {name : Bytes} : nameMatches pattern name = true ↔
    ∃ text, Utf8.decode? name = some text ∧ pattern.matchesName text = true := by
  unfold nameMatches
  cases Utf8.decode? name <;> simp

/-! ## Trees that can be read -/

/-- The names in the directory can be read, and those in each directory that is reached from it. -/
structure TreeReadable (fs : FileSystem) (wd : Location) (base : Path) : Prop where
  root : fs.checkReadableDirectory wd base = .ok ()
  below : ∀ place, fs.locate wd base = .ok place → ∀ names, fs.Reaches place names →
    fs.isDirectoryAt (place ++ names) = true →
    fs.checkReadableDirectory wd (base.extend names) = .ok ()

theorem checkReadableDirectory_ok_iff {p : Path} : fs.checkReadableDirectory wd p = .ok () ↔
    ∃ place m, fs.locate wd p = .ok place ∧ fs.get? place = some (.directory m) ∧ m.mayRead = true := by
  unfold checkReadableDirectory
  constructor
  · intro h
    cases hstat : fs.stat wd p with
    | error e => simp [hstat, bind, Except.bind] at h
    | ok e =>
      obtain ⟨place, hlocate, he⟩ := locate_of_stat hstat
      cases e with
      | directory m =>
        refine ⟨place, m, hlocate, he, ?_⟩
        simpa [hstat, bind, Except.bind] using h
      | file | link | device => simp [hstat, bind, Except.bind] at h
  · rintro ⟨place, m, hlocate, he, hread⟩
    simp [stat_of_locate hlocate he, bind, Except.bind, hread]

/-- A directory that can be read is one, and a walk can begin at it. -/
theorem located_of_readable {p : Path} (h : fs.checkReadableDirectory wd p = .ok ()) :
    ∃ link place, fs.locateLink wd p = .ok link ∧ fs.locate wd p = .ok place ∧
      fs.isDirectoryAt place = true ∧ fs.isDirectory wd p = true := by
  obtain ⟨place, m, hlocate, he, -⟩ := checkReadableDirectory_ok_iff.1 h
  obtain ⟨ht, hf⟩ := locate_ok_iff.1 hlocate
  have hfollowed : Followed fs .through maxLinks (p.start wd) (p.steps ++ []) (.found place) := by
    rw [List.append_nil]
    exact .of_follow hf (by simp)
  obtain ⟨link, hlink⟩ := hfollowed.itself_of_through
  have hwalk : fs.walk wd .itself p = .ok (.found link) :=
    walk_ok_iff.2 ⟨ht, hlink.follow_eq, by simp⟩
  refine ⟨link, place, ?_, hlocate, ?_, ?_⟩
  · rw [locateLink, hwalk]
    rfl
  · rw [isDirectoryAt, he]
    rfl
  · exact isDirectory_iff.2 ⟨place, m, hlocate, he⟩

theorem taken_extend (h : base.Taken) (hnames : names.all isName = true)
    (hlen : (base.extend names).octets.length < maxPath) : (base.extend names).Taken := by
  refine ⟨?_, ?_, hlen⟩
  · clear hlen
    induction names using List.reverseRecOn with
    | nil => exact h.1
    | append_singleton names name ih =>
      rw [List.all_append, Bool.and_eq_true, List.all_cons, Bool.and_eq_true] at hnames
      rw [Path.extend_concat]
      intro hzero
      rcases Path.mem_octets_join hzero with hzero | hzero | hzero
      · exact ih hnames.1 hzero
      · cases hzero
      · exact (isName_iff.1 hnames.2.1).2.2.2.2.2 hzero
  · rcases List.eq_nil_or_concat names with rfl | ⟨init, name, rfl⟩
    · exact h.2.1
    · rw [List.concat_eq_append, List.all_append, Bool.and_eq_true, List.all_cons, Bool.and_eq_true]
        at hnames
      rw [List.concat_eq_append, Path.extend_concat]
      exact Path.join_ne_nil _ (isName_iff.1 hnames.2.1).1

/-- **A tree can be read if its directories may be read and entered**, on paths that are not too long. -/
theorem treeReadable_of_open {m : Permissions} (hplace : fs.locate wd base = .ok place)
    (hroot : fs.get? place = some (.directory m)) (hread : m.mayRead = true) (henter : m.mayEnter = true)
    (hopen : ∀ e ∈ fs.below place, e.2.isDirectory = true → e.2.permissions.mayRead = true ∧
      e.2.permissions.mayEnter = true ∧ (base.extend e.1).octets.length < maxPath) :
    fs.TreeReadable wd base := by
  have hdirectory {names : List Bytes} {m : Permissions} (hreaches : fs.Reaches place names)
      (he : fs.get? (place ++ names) = some (.directory m)) :
      m.mayRead = true ∧ m.mayEnter = true ∧ (base.extend names).octets.length < maxPath := by
    obtain ⟨e, hbelow⟩ := reaches_iff.1 hreaches
    obtain rfl : e = .directory m := Option.some.inj ((mem_below.1 hbelow).2.1.symm.trans he)
    exact hopen _ hbelow rfl
  refine ⟨checkReadableDirectory_ok_iff.2 ⟨place, m, hplace, hroot, hread⟩, ?_⟩
  intro place' hplace' names hreaches hdir
  obtain rfl : place = place' := Except.ok.inj (hplace.symm.trans hplace')
  obtain ⟨e, he, hkind⟩ := (Option.any_eq_true _ _).1 hdir
  cases e with
  | directory m' =>
    obtain ⟨hread', -, hlen⟩ := hdirectory hreaches he
    refine checkReadableDirectory_ok_iff.2 ⟨place ++ names, m', ?_, he, hread'⟩
    obtain ⟨left, hleft⟩ := follow_extend hplace
    rw [locate_ok_iff, hleft .through names (by simp) hreaches.ne_nil hreaches.named]
    refine ⟨taken_extend (locate_ok_iff.1 hplace).1 hreaches.named hlen, ?_⟩
    have hadv := hreaches.through hroot henter (fun names m h he => (hdirectory h he).2.1)
      (by simp [he])
    exact (Followed.done hadv (by simp)).follow_eq
  | file | link | device => cases hkind

/-! ## What is found -/

theorem readable_of_tree (h : fs.TreeReadable wd base) (hplace : fs.locate wd base = .ok place)
    {r : Reached} (hr : r ∈ fs.reached base place) : r.Readable fs wd := by
  intro hdir
  rcases List.mem_cons.1 hr with rfl | hr
  · exact h.root
  split at hr
  · obtain ⟨⟨names, e⟩, he, rfl⟩ := List.mem_map.1 hr
    refine h.below place hplace names (reaches_iff.2 ⟨e, he⟩) ?_
    rw [isDirectoryAt, (mem_below.1 he).2.1]
    exact hdir
  · cases hr

/-- Of all that a walk asks for, the files with names that match are those that it reaches by names. -/
theorem mem_found_iff (hdir : fs.isDirectory wd base = true) (hplace : fs.isDirectoryAt place = true) :
    r ∈ ((fs.reached base place).filter fun r =>
        fs.isFile wd r.path && nameMatches pattern r.name).map (fun r => base.relativeTo r.path) ↔
      ∃ names, fs.Reaches place names ∧ r = (⟨[]⟩ : Path).extend names ∧
        fs.isFile wd (base.extend names) = true ∧ nameMatches pattern (names.getLastD []) = true := by
  simp only [List.mem_map, List.mem_filter, Bool.and_eq_true, reached, if_pos hplace]
  constructor
  · rintro ⟨r, ⟨hr, hfile, hname⟩, rfl⟩
    rcases List.mem_cons.1 hr with rfl | hr
    · rw [not_isFile_of_isDirectory hdir] at hfile
      cases hfile
    · obtain ⟨⟨names, e⟩, he, rfl⟩ := List.mem_map.1 hr
      exact ⟨names, reaches_iff.2 ⟨e, he⟩, Path.relativeTo_extend base (names_of_mem_below he), hfile,
        hname⟩
  · rintro ⟨names, hreaches, rfl, hfile, hname⟩
    obtain ⟨e, he⟩ := reaches_iff.1 hreaches
    exact ⟨_, ⟨List.mem_cons_of_mem _ (List.mem_map.2 ⟨(names, e), he, rfl⟩), hfile, hname⟩,
      Path.relativeTo_extend base hreaches.named⟩

/-- Whether a walk fails does not depend on the names that it looks for. -/
theorem findMatching_ok_iff_treeReadable (hdir : fs.isDirectory wd base = true) :
    (∃ found, fs.findMatching wd base pattern = .ok found) ↔ fs.TreeReadable wd base := by
  constructor
  · rintro ⟨found, h⟩
    obtain ⟨link, place, -, hplace, hread, -⟩ := findMatching_ok_iff.1 h
    obtain ⟨place', m, hplace', hentry⟩ := isDirectory_iff.1 hdir
    obtain rfl := Except.ok.inj (hplace.symm.trans hplace')
    have hdirAt : fs.isDirectoryAt place = true := by
      rw [isDirectoryAt, hentry]
      rfl
    refine ⟨hread _ List.mem_cons_self hdirAt, ?_⟩
    intro place' hplace' names hreaches hbelow
    obtain rfl := Except.ok.inj (hplace.symm.trans hplace')
    obtain ⟨e, he⟩ := reaches_iff.1 hreaches
    rw [isDirectoryAt, (mem_below.1 he).2.1] at hbelow
    refine hread ⟨base.extend names, names.getLastD [], e.isDirectory⟩ ?_ hbelow
    rw [reached, if_pos hdirAt]
    exact List.mem_cons_of_mem _ (List.mem_map.2 ⟨(names, e), he, rfl⟩)
  · intro h
    obtain ⟨link, place, hlink, hplace, -, -⟩ := located_of_readable h.root
    exact ⟨_, findMatching_ok_iff.2 ⟨link, place, hlink, hplace,
      fun r hr => readable_of_tree h hplace hr, rfl⟩⟩

/-- **A walk finds exactly the files with names that match, each once and in order.** Where the directory that
it begins at, directly or over a link, and all directories that are reached can be read, it succeeds. It finds
what names lead to through directories, if a way over these names leads to a regular file and the last of them
is UTF-8 and matches. Each path that it finds is made of names, and joined to where the walk began it is the path
that the walk has gone, which leads to the very entry that was reached. -/
theorem findMatching_complete (h : fs.TreeReadable wd base) (pattern : Pattern) :
    ∃ place found, fs.locate wd base = .ok place ∧ fs.findMatching wd base pattern = .ok found ∧
      found.Pairwise (fun p q => before p q = true) ∧
      (∀ r, r ∈ found ↔ ∃ names, fs.Reaches place names ∧ r = (⟨[]⟩ : Path).extend names ∧
        fs.isFile wd (base.join r) = true ∧
        ∃ name text, r.fileName = some name ∧ Utf8.decode? name = some text ∧
          pattern.matchesName text = true) ∧
      ∀ r ∈ found, ∃ names, fs.Reaches place names ∧ names.all isName = true ∧
        r.components = names.map .name ∧ base.join r = base.extend names ∧
        fs.locateLink wd (base.join r) = .ok (place ++ names) := by
  obtain ⟨link, place, hlink, hplace, hdirAt, hdir⟩ := located_of_readable h.root
  have hmatches {names : List Bytes} (hreaches : fs.Reaches place names) :
      nameMatches pattern (names.getLastD []) = true ↔
        ∃ name text, ((⟨[]⟩ : Path).extend names).fileName = some name ∧
          Utf8.decode? name = some text ∧ pattern.matchesName text = true := by
    rw [nameMatches_iff, Path.fileName_extend_nil hreaches.named,
      List.getLast?_eq_some_getLast hreaches.ne_nil, List.getLastD_eq_getLast?,
      List.getLast?_eq_some_getLast hreaches.ne_nil]
    simp
  have hjoin {names : List Bytes} (hreaches : fs.Reaches place names) :
      base.join ((⟨[]⟩ : Path).extend names) = base.extend names :=
    Path.join_extend_nil base hreaches.named hreaches.ne_nil
  refine ⟨place, _, hplace, findMatching_ok_iff.2 ⟨link, place, hlink, hplace,
    fun r hr => readable_of_tree h hplace hr, rfl⟩, ?order, ?exact, ?entry⟩
  case order =>
    refine sortPaths_sorted (files_distinct hplace _ fun r hr => ?_)
    rw [Bool.and_eq_true] at hr
    exact hr.1
  case exact =>
    intro r
    rw [mem_sortPaths, mem_found_iff hdir hdirAt]
    refine exists_congr fun names => and_congr_right fun hreaches => and_congr_right fun hr => ?_
    rw [hr, hjoin hreaches, hmatches hreaches]
  case entry =>
    intro r hr
    rw [mem_sortPaths, mem_found_iff hdir hdirAt] at hr
    obtain ⟨names, hreaches, rfl, hfile, -⟩ := hr
    obtain ⟨q, -, -, hq, -⟩ := isFile_iff.1 hfile
    refine ⟨names, hreaches, hreaches.named, Path.components_extend ⟨[]⟩ hreaches.named,
      hjoin hreaches, ?_⟩
    rw [hjoin hreaches]
    exact hreaches.locateLink hplace hq

/-- A directory `d` that the link `s` leads to. It has a library, another in its directory `n`, a link to that one,
and a link back from there, a link to itself, a link to nowhere, and a name that is not UTF-8. -/
def tangled : FileSystem :=
  FileSystem.empty.plantAll [] [.file (.ofText "d/a.so") [1] false, .file (.ofText "d/n/b.so") [2] false,
    .link (.ofText "d/c.so") (.ofText "n/b.so"), .link (.ofText "d/n/up.so") (.ofText ".."),
    .link (.ofText "d/loop.so") (.ofText "loop.so"), .link (.ofText "d/gone.so") (.ofText "nowhere.so"),
    .file ((Path.ofText "d").join ⟨0xFF :: Utf8.encode ".so"⟩) [3] false,
    .link (.ofText "s") (.ofText "d")]

/-- The walk begins over the link, on a path with all that components leave out. -/
def tangledBase : Path := .ofText "./s/..//s/./"

/-- Names that end in `.so`. -/
def sharedLibraries : Pattern := ⟨[.anySequence, .char '.', .char 's', .char 'o']⟩

/-- The libraries are found, and the link to one of them. -/
theorem findMatching_complete_tangled :
    tangled.TreeReadable [] tangledBase ∧
    ∃ place found, tangled.locate [] tangledBase = .ok place ∧ place = [[0x64]] ∧
      tangled.findMatching [] tangledBase sharedLibraries = .ok found ∧
      found = [.ofText "a.so", .ofText "c.so", .ofText "n/b.so"] ∧
      ∀ r ∈ found, ∃ names, tangled.Reaches place names ∧ names.all isName = true ∧
        r.components = names.map .name ∧ tangledBase.join r = tangledBase.extend names ∧
        tangled.locateLink [] (tangledBase.join r) = .ok (place ++ names) := by
  have hplace : tangled.locate [] tangledBase = .ok [[0x64]] := by decide +kernel
  have htree : tangled.TreeReadable [] tangledBase :=
    treeReadable_of_open (m := .folder) hplace (by decide +kernel) (by decide +kernel)
      (by decide +kernel) (by decide +kernel)
  have hfound : tangled.findMatching [] tangledBase sharedLibraries =
      .ok [.ofText "a.so", .ofText "c.so", .ofText "n/b.so"] := by
    decide +kernel
  obtain ⟨place, found, hplace', hfound', -, -, hentries⟩ :=
    findMatching_complete htree sharedLibraries
  obtain rfl := Except.ok.inj (hplace.symm.trans hplace')
  obtain rfl := Except.ok.inj (hfound.symm.trans hfound')
  exact ⟨htree, _, _, hplace, rfl, hfound, rfl, hentries⟩

end FileSystem

end ConsumerCheck
