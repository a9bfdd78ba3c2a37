import ConsumerCheck.Proofs.Staging.Plan

/-!
# Where the places of a plan lie

By their steps alone, all places of a plan lead below one location, that of the runtime directory;
two places lead to one location only if they are the same.

* `runtimeLocation` — the location of the runtime directory;
* `lexical_place`, `trail_place` — where a place leads, and what is passed on the way;
* `lexical_injective` — different places lead to different locations.
-/

namespace ConsumerCheck

namespace Step

variable {place q : Location} {steps : List Step}

/-- Where a path stays plays no part in where it leads. -/
theorem foldl_filter (place : Location) (steps : List Step) :
    (steps.filter (· ≠ .here)).foldl Step.next place = steps.foldl Step.next place := by
  induction steps generalizing place with
  | nil => rfl
  | cons step rest ih =>
    cases step with
    | here => simpa [Step.next] using ih place
    | slash => simpa [Step.next] using ih place
    | parent => simpa [Step.next] using ih place.dropLast
    | name n => simpa [Step.next] using ih (place ++ [n])

/-- Where a path stays plays no part in what it passes. -/
theorem mem_passed_filter :
    q ∈ passed place (steps.filter (· ≠ .here)) ↔ q ∈ passed place steps := by
  induction steps generalizing place with
  | nil => rfl
  | cons step rest ih =>
    cases step with
    | here =>
      rw [List.filter_cons_of_neg (by simp), ih, passed, List.mem_cons]
      constructor
      · exact .inr
      · rintro (rfl | h)
        · exact FileSystem.mem_passed_self ..
        · exact h
    | slash => simpa [passed, Step.next] using or_congr_right ih
    | parent => simpa [passed, Step.next] using or_congr_right ih
    | name n => simpa [passed, Step.next] using or_congr_right ih

theorem mem_passed_append {more : List Step} :
    q ∈ passed place (steps ++ more) ↔
      q ∈ passed place steps ∨ q ∈ passed (steps.foldl Step.next place) more := by
  induction steps generalizing place with
  | nil =>
    simp only [List.nil_append, List.foldl_nil, passed, List.mem_singleton]
    constructor
    · exact .inr
    · rintro (rfl | h)
      · exact FileSystem.mem_passed_self ..
      · exact h
  | cons step rest ih => simp [passed, ih, or_assoc]

theorem foldl_names (place : Location) (names : List Bytes) :
    (names.map Step.name).foldl Step.next place = place ++ names := by
  induction names generalizing place with
  | nil => simp
  | cons n names ih =>
    rw [List.map_cons, List.foldl_cons, ih]
    simp [Step.next]

theorem prefix_of_mem_passed_names {names : List Bytes}
    (h : q ∈ passed place (names.map Step.name)) : place <+: q := by
  induction names generalizing place with
  | nil =>
    rw [List.map_nil, passed, List.mem_singleton] at h
    exact h ▸ List.prefix_refl _
  | cons n names ih =>
    rw [List.map_cons, passed, List.mem_cons] at h
    rcases h with rfl | h
    · exact List.prefix_refl _
    · exact (List.prefix_append place [n]).trans (ih h)

end Step

/-- The location of the runtime directory, by the steps of its path alone. -/
def runtimeLocation (wd : Location) (destRoot : Path) : Location :=
  (destRoot.join runtimeDir).lexical wd

namespace Path

variable {wd q : Location} {destRoot dst place : Path} {names : List Bytes}

theorem components_runtimeDir : runtimeDir.components = [.name runtimeDir.octets] := by
  decide +kernel

/-- What is the same as the runtime directory moves to it and to nothing else. -/
theorem moves_of_same (h : Same dst runtimeDir) :
    dst.moves.filter (· ≠ .here) = [.name runtimeDir.octets] := by
  rw [filter_moves, h, components_runtimeDir]
  rfl

theorem isAbsolute_of_same (h : Same dst runtimeDir) : dst.isAbsolute = false := by
  have hcomponents := components_eq dst
  rw [h, components_runtimeDir] at hcomponents
  cases habs : dst.isAbsolute with
  | false => rfl
  | true => simp [lead, habs] at hcomponents

theorem ne_nil_of_same (h : Same dst runtimeDir) : dst.octets ≠ [] := by
  intro hnil
  obtain ⟨bs⟩ := dst
  dsimp only at hnil
  subst hnil
  exact absurd h (by decide +kernel)

theorem start_join {p : Path} (h : p.isAbsolute = false) :
    (destRoot.join p).start wd = destRoot.start wd := by
  rw [start, isAbsolute_join h, start]

theorem start_join_extend (wd : Location) (destRoot : Path) (hdst : Same dst runtimeDir)
    (h : names.all isName = true) :
    (destRoot.join (dst.extend names)).start wd = destRoot.start wd :=
  start_join ((isAbsolute_extend dst h).trans (isAbsolute_of_same hdst))

theorem steps_join_extend (destRoot : Path) (hdst : Same dst runtimeDir) (hne : names ≠ [])
    (h : names.all isName = true) : (destRoot.join (dst.extend names)).steps =
      (destRoot.moves ++ dst.moves) ++ names.map .name := by
  have habs := isAbsolute_of_same hdst
  rw [join_extend destRoot h habs (ne_nil_of_same hdst), steps_extend _ h hne, moves_join _ habs]

theorem same_runtimeDir : Same runtimeDir runtimeDir := rfl

theorem steps_join_runtimeDir :
    (destRoot.join runtimeDir).steps = destRoot.moves ++ runtimeDir.moves := by
  have habs := isAbsolute_of_same same_runtimeDir
  rw [steps_eq_moves, moves_join _ habs]
  rw [getLast?_pieces_join _ habs]
  decide +kernel

theorem foldl_runtimeDir (hdst : Same dst runtimeDir) (place : Location) :
    (destRoot.moves ++ dst.moves).foldl Step.next place =
      (destRoot.moves ++ runtimeDir.moves).foldl Step.next place := by
  rw [← Step.foldl_filter place (destRoot.moves ++ dst.moves),
    ← Step.foldl_filter place (destRoot.moves ++ runtimeDir.moves), List.filter_append,
    List.filter_append, moves_of_same hdst, moves_of_same same_runtimeDir]

/-- The names of a place lead on from the location of the runtime directory. -/
theorem lexical_extend (hdst : Same dst runtimeDir) (hne : names ≠ [])
    (h : names.all isName = true) :
    (destRoot.join (dst.extend names)).lexical wd = runtimeLocation wd destRoot ++ names := by
  rw [runtimeLocation, lexical, lexical, start_join_extend wd destRoot hdst h,
    steps_join_extend destRoot hdst hne h, List.foldl_append, Step.foldl_names,
    foldl_runtimeDir hdst, steps_join_runtimeDir,
    start_join (isAbsolute_of_same same_runtimeDir)]

/-- **A place leads below the location of the runtime directory.** -/
theorem lexical_place (wd : Location) (destRoot : Path) (h : place.IsPlace) :
    ∃ names, names ≠ [] ∧ names.all isName = true ∧
      (destRoot.join place).lexical wd = runtimeLocation wd destRoot ++ names := by
  obtain ⟨dst, names, hdst, hne, hnames, rfl⟩ := h
  exact ⟨names, hne, hnames, lexical_extend hdst hne hnames⟩

/-- What a place passes lies on the way to the runtime directory or below it. -/
theorem trail_place (h : place.IsPlace) (hq : q ∈ (destRoot.join place).trail wd) :
    q ∈ (destRoot.join runtimeDir).trail wd ∨ runtimeLocation wd destRoot <+: q := by
  obtain ⟨dst, names, hdst, hne, hnames, rfl⟩ := h
  rw [trail, start_join_extend wd destRoot hdst hnames, steps_join_extend destRoot hdst hne hnames,
    Step.mem_passed_append] at hq
  rw [trail, runtimeLocation, lexical, steps_join_runtimeDir,
    start_join (isAbsolute_of_same same_runtimeDir)]
  rcases hq with hq | hq
  · refine .inl ?_
    rw [← Step.mem_passed_filter, List.filter_append, moves_of_same hdst] at hq
    rwa [← Step.mem_passed_filter, List.filter_append, moves_of_same same_runtimeDir]
  · refine .inr ?_
    rw [← foldl_runtimeDir hdst]
    exact Step.prefix_of_mem_passed_names hq

/-- **Places that lead to the same location are the same.** -/
theorem lexical_injective {other : Path} (h : place.IsPlace) (h' : other.IsPlace)
    (heq : (destRoot.join place).lexical wd = (destRoot.join other).lexical wd) :
    Same place other := by
  obtain ⟨dst, names, hdst, hne, hnames, rfl⟩ := h
  obtain ⟨dst', names', hdst', hne', hnames', rfl⟩ := h'
  rw [lexical_extend hdst hne hnames, lexical_extend hdst' hne' hnames'] at heq
  obtain rfl := List.append_cancel_left heq
  rw [Same, components_extend dst hnames, components_extend dst' hnames, hdst, hdst']

end Path

end ConsumerCheck
