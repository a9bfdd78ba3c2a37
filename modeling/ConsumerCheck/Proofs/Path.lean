import ConsumerCheck.FileSystem.Resolve
import ConsumerCheck.Path.Relative
import Mathlib.Data.List.Induction
import Mathlib.Data.List.TakeWhile

/-!
# Paths below paths

`Path.join` works on octets. What a path means is decided by its pieces: for the order of paths by
its components, for the file system by its steps. Here both are shown to be lists that `join`
appends.

* `Path.moves` — the steps of a path without the slash at the end;
* `Path.extend` — the path that a list of names leads to.

Principal results: `components_join`, `moves_join` — components and moves of a path below another;
`relativeTo_extend`, `join_extend_nil` — what a walk reaches below a directory, relative to it,
leads to the same path again.
-/

namespace ConsumerCheck

theorem isName_iff {name : Bytes} :
    isName name = true ↔ name ≠ [] ∧ name ≠ Path.dot ∧ name ≠ Path.dotDot ∧
      name.length ≤ FileSystem.maxName ∧ Path.slash ∉ name ∧ 0 ∉ name := by
  simp [isName, and_assoc]

namespace Path

/-! ## Pieces -/

theorem splitAt_ne_nil (separator : UInt8) (bs : Bytes) : splitAt separator bs ≠ [] := by
  cases bs with
  | nil => simp [splitAt]
  | cons b rest =>
    unfold splitAt
    split
    · simp
    · split <;> simp

theorem splitAt_append (separator : UInt8) (bs cs : Bytes) :
    splitAt separator (bs ++ separator :: cs) = splitAt separator bs ++ splitAt separator cs := by
  induction bs with
  | nil => simp [splitAt]
  | cons b rest ih =>
    by_cases hb : b = separator
    · simp [splitAt, hb, ih]
    · simp only [List.cons_append, splitAt, if_neg hb, ih]
      cases h : splitAt separator rest with
      | nil => exact absurd h (splitAt_ne_nil separator rest)
      | cons piece pieces => rfl

theorem splitAt_of_not_mem {separator : UInt8} {bs : Bytes} (h : separator ∉ bs) :
    splitAt separator bs = [bs] := by
  induction bs with
  | nil => rfl
  | cons b rest ih =>
    simp only [List.mem_cons, not_or] at h
    rw [splitAt, if_neg (Ne.symm h.1), ih h.2]

/-- A path that does not begin at the root is split as it is. -/
theorem pieces_of_relative {p : Path} (h : p.isAbsolute = false) :
    p.pieces = splitAt slash p.octets := by
  unfold pieces
  rw [h]

theorem pieces_ne_nil (p : Path) : p.pieces ≠ [] := by
  unfold pieces
  split <;> exact splitAt_ne_nil slash _

/-- An absolute path is split behind its first slash. -/
theorem pieces_of_absolute (bs : Bytes) : (⟨slash :: bs⟩ : Path).pieces = splitAt slash bs := by
  simp [pieces, isAbsolute]

theorem isAbsolute_cons (b : UInt8) (bs : Bytes) :
    (⟨b :: bs⟩ : Path).isAbsolute = (b == slash) := rfl

theorem isAbsolute_join {p q : Path} (h : q.isAbsolute = false) :
    (p.join q).isAbsolute = p.isAbsolute := by
  obtain ⟨bs⟩ := p
  unfold join
  rw [h]
  cases bs with
  | nil => simpa [isAbsolute] using h
  | cons b rest =>
    simp only [Bool.false_eq_true, if_false]
    split <;> simp [isAbsolute]

theorem isAbsolute_join_of_left {p : Path} (h : p.isAbsolute = true) (q : Path) :
    (p.join q).isAbsolute = true := by
  cases hq : q.isAbsolute with
  | true => rw [join, if_pos hq, hq]
  | false => rw [isAbsolute_join hq, h]

theorem components_ne_nil_of_isAbsolute {p : Path} (h : p.isAbsolute = true) :
    p.components ≠ [] := by
  simp [components, h]

/-- A slash in a path ends a piece, unless it is the root. -/
theorem pieces_append_slash {bs : Bytes} (hne : bs ≠ []) (cs : Bytes) :
    (⟨bs ++ slash :: cs⟩ : Path).pieces = (⟨bs⟩ : Path).pieces ++ splitAt slash cs := by
  cases bs with
  | nil => exact absurd rfl hne
  | cons b rest =>
    by_cases hb : b = slash
    · subst hb
      rw [List.cons_append, pieces_of_absolute, pieces_of_absolute]
      exact splitAt_append slash rest cs
    · have hrel : ∀ ds, (⟨b :: ds⟩ : Path).isAbsolute = false := by
        intro ds
        rw [isAbsolute_cons, beq_eq_false_iff_ne]
        exact hb
      rw [List.cons_append, pieces_of_relative (hrel _), pieces_of_relative (hrel _)]
      exact splitAt_append slash (b :: rest) cs

/-- The pieces of a path below `p` are those of `p`, without an empty one at the end, and then its
own. -/
theorem pieces_join (p : Path) {q : Path} (h : q.isAbsolute = false) :
    ∃ front, (p.join q).pieces = front ++ q.pieces ∧
      (p.pieces = front ∨ p.pieces = front ++ [[]]) := by
  obtain ⟨bs⟩ := p
  unfold join
  rw [h, pieces_of_relative h]
  simp only [Bool.false_eq_true, if_false]
  by_cases hnil : bs = []
  · subst hnil
    exact ⟨[], pieces_of_relative h, .inr rfl⟩
  -- a slash at the end of `p` is the one between both, and no other is put there
  by_cases hlast : bs.getLast? = some slash
  · rw [if_pos (.inr hlast)]
    obtain ⟨init, rfl⟩ := List.getLast?_eq_some_iff.1 hlast
    by_cases hinit : init = []
    · subst hinit
      exact ⟨[], pieces_of_absolute q.octets, .inr rfl⟩
    · refine ⟨(⟨init⟩ : Path).pieces, ?_, .inr (pieces_append_slash hinit [])⟩
      rw [List.append_assoc]
      exact pieces_append_slash hinit q.octets
  · rw [if_neg (by simp [hnil, hlast])]
    exact ⟨(⟨bs⟩ : Path).pieces, pieces_append_slash hnil q.octets, .inl rfl⟩

/-- A path is at its end what was joined to it. -/
theorem getLast?_pieces_join (p : Path) {q : Path} (h : q.isAbsolute = false) :
    (p.join q).pieces.getLast? = q.pieces.getLast? := by
  obtain ⟨front, hjoin, -⟩ := pieces_join p h
  rw [hjoin, List.getLast?_append, List.getLast?_eq_some_getLast (pieces_ne_nil q)]
  rfl

/-! ## Components -/

/-- The component that a path begins with, where it stands for no entry: the root, or the directory
itself. -/
def lead (p : Path) : List Component :=
  if p.isAbsolute then [.root] else if p.pieces.head? = some dot then [.here] else []

theorem components_eq (p : Path) :
    p.components = p.lead ++ p.pieces.filterMap Component.ofPiece := by
  have hmap : ∀ ps : List Bytes,
      (ps.map fun piece => (piece, Component.ofPiece piece)).filterMap (·.2) =
        ps.filterMap Component.ofPiece := by
    intro ps
    rw [List.filterMap_map]
    rfl
  unfold components lead parts
  cases p.isAbsolute with
  | true => simp [hmap]
  | false =>
    cases hp : p.pieces with
    | nil => exact absurd hp (pieces_ne_nil p)
    | cons first rest =>
      simp only [List.filterMap_cons, hmap, Bool.false_eq_true, if_false, List.nil_append,
        List.head?_cons, Option.some.injEq]
      by_cases hd : first = dot
      · simp [hd, Component.ofPiece]
      · simp [hd]

theorem lead_join (p : Path) {q : Path} (h : q.isAbsolute = false) (hq : q.lead = []) :
    (p.join q).lead = p.lead := by
  obtain ⟨front, hjoin, hp⟩ := pieces_join p h
  have hhead : q.pieces.head? ≠ some dot := by
    intro hd
    simp [lead, h, hd] at hq
  unfold lead
  rw [isAbsolute_join h, hjoin]
  cases front with
  | nil =>
    rcases hp with hp | hp
    · exact absurd hp (pieces_ne_nil p)
    · have hp' : p.pieces.head? ≠ some dot := by simp [hp, dot]
      rw [List.nil_append, if_neg hhead, if_neg hp']
  | cons first rest =>
    rcases hp with hp | hp <;> simp [hp]

/-- The components of a path below `p`, unless it names the directory itself first. -/
theorem components_join (p : Path) {q : Path} (h : q.isAbsolute = false) (hq : q.lead = []) :
    (p.join q).components = p.components ++ q.components := by
  obtain ⟨front, hjoin, hp⟩ := pieces_join p h
  rw [components_eq, lead_join p h hq, hjoin, components_eq p, components_eq q, hq,
    List.filterMap_append]
  rcases hp with hp | hp <;> simp [hp, Component.ofPiece]

/-- A path that begins with a name has its components behind those of any directory. -/
theorem components_join_of_name (p : Path) {q : Path} {name : Bytes} {cs : List Component}
    (h : q.components = .name name :: cs) : (p.join q).components = p.components ++ q.components := by
  have hlead := components_eq q
  rw [h, lead] at hlead
  cases habs : q.isAbsolute with
  | true => simp [habs] at hlead
  | false =>
    by_cases hdot : q.pieces.head? = some dot
    · simp [habs, hdot] at hlead
    · exact components_join p habs (by simp [lead, habs, hdot])

/-! ## Moves -/

/-- The step that a piece stands for; an empty piece stands for none. -/
def stepOf (piece : Bytes) : Option Step :=
  if piece = [] then none
  else if piece = dot then some .here
  else if piece = dotDot then some .parent
  else some (.name piece)

/-- The steps of a path without the slash at the end. -/
def moves (p : Path) : List Step := p.pieces.filterMap stepOf

theorem steps_eq (p : Path) :
    p.steps = p.moves ++
      if p.pieces.length > 1 && p.pieces.getLast? == some [] then [.slash] else [] := rfl

theorem steps_eq_moves {p : Path} (h : p.pieces.getLast? ≠ some []) : p.steps = p.moves := by
  rw [steps_eq, if_neg (by simp [h]), List.append_nil]

theorem moves_join (p : Path) {q : Path} (h : q.isAbsolute = false) :
    (p.join q).moves = p.moves ++ q.moves := by
  obtain ⟨front, hjoin, hp⟩ := pieces_join p h
  unfold moves
  rw [hjoin, List.filterMap_append]
  rcases hp with hp | hp <;> simp [hp, stepOf]

/-- The step that a component stands for. The root is no step. -/
def Component.step? : Component → Option Step
  | .root => none
  | .here => some .here
  | .parent => some .parent
  | .name octets => some (.name octets)

/-- Components and moves tell the same of a path, but for the places where it stays. -/
theorem filter_moves (p : Path) :
    p.moves.filter (· ≠ .here) =
      (p.components.filterMap Component.step?).filter (· ≠ .here) := by
  have hpieces : ∀ ps : List Bytes, (ps.filterMap stepOf).filter (· ≠ .here) =
      ((ps.filterMap Component.ofPiece).filterMap Component.step?).filter (· ≠ .here) := by
    intro ps
    induction ps with
    | nil => rfl
    | cons piece rest ih =>
      by_cases hnil : piece = []
      · simpa [stepOf, Component.ofPiece, hnil] using ih
      by_cases hdot : piece = dot
      · simpa [stepOf, Component.ofPiece, hdot, dot] using ih
      by_cases hdots : piece = dotDot
      · simpa [stepOf, Component.ofPiece, hdots, dot, dotDot, Component.step?] using ih
      · simpa [stepOf, Component.ofPiece, hnil, hdot, hdots, Component.step?] using ih
  rw [moves, hpieces, components_eq, List.filterMap_append, List.filter_append]
  have : (p.lead.filterMap Component.step?).filter (· ≠ .here) = [] := by
    unfold lead
    split
    · rfl
    · split <;> rfl
  rw [this, List.nil_append]

/-! ## Slashes at the end -/

theorem getLast?_splitAt {separator : UInt8} {bs : Bytes} (hne : bs ≠ [])
    (hlast : bs.getLast? ≠ some separator) : (splitAt separator bs).getLast? ≠ some [] := by
  obtain ⟨init, b, rfl⟩ : ∃ init b, bs = init ++ [b] := by
    rcases List.eq_nil_or_concat bs with rfl | ⟨init, b, rfl⟩
    · exact absurd rfl hne
    · exact ⟨init, b, by rw [List.concat_eq_append]⟩
  have hb : b ≠ separator := by simpa using hlast
  induction init with
  | nil => simp [splitAt, hb]
  | cons a rest ih =>
    have ih := ih (by simp) (by simpa using hb)
    by_cases ha : a = separator
    · rw [List.cons_append, splitAt, if_pos ha]
      cases hs : splitAt separator (rest ++ [b]) with
      | nil => exact absurd hs (splitAt_ne_nil separator _)
      | cons piece pieces =>
        rw [hs] at ih
        simpa using ih
    · rw [List.cons_append, splitAt, if_neg ha]
      cases hs : splitAt separator (rest ++ [b]) with
      | nil => simp
      | cons piece pieces =>
        rw [hs] at ih
        cases pieces with
        | nil => simp
        | cons next others => simpa using ih

theorem moves_append_slashes {bs : Bytes} (hne : bs ≠ []) {slashes : Bytes}
    (h : ∀ b ∈ slashes, b = slash) : (⟨bs ++ slashes⟩ : Path).moves = (⟨bs⟩ : Path).moves := by
  induction slashes generalizing bs with
  | nil => rw [List.append_nil]
  | cons b slashes ih =>
    obtain rfl := h b List.mem_cons_self
    have hmoves : (⟨bs ++ [slash]⟩ : Path).moves = (⟨bs⟩ : Path).moves := by
      rw [moves, pieces_append_slash hne [], List.filterMap_append]
      exact List.append_nil _
    rw [List.append_cons, ih (by simp) (fun b hb => h b (List.mem_cons_of_mem _ hb)), hmoves]

theorem getLast?_pieces {p : Path} (hne : p.octets ≠ []) (hlast : p.octets.getLast? ≠ some slash) :
    p.pieces.getLast? ≠ some [] := by
  obtain ⟨bs⟩ := p
  cases bs with
  | nil => exact absurd rfl hne
  | cons b rest =>
    by_cases hb : b = slash
    · subst hb
      rw [pieces_of_absolute]
      cases rest with
      | nil => exact absurd rfl hlast
      | cons c others => exact getLast?_splitAt (by simp) (by simpa using hlast)
    · rw [pieces_of_relative (by simpa [isAbsolute] using hb)]
      exact getLast?_splitAt hne hlast

/-- A path without the slashes at its end, and the slashes. -/
theorem bare_cases (p : Path) :
    p.bare = p ∨ ∃ slashes, p.octets = p.bare.octets ++ slashes ∧ (∀ b ∈ slashes, b = slash) ∧
      p.bare.octets ≠ [] ∧ p.bare.octets.getLast? ≠ some slash := by
  unfold bare
  split
  · exact .inl rfl
  rename_i hall
  refine .inr ⟨(p.octets.reverse.takeWhile (· == slash)).reverse, ?_, ?_, ?_, ?_⟩
  · rw [← List.reverse_append, List.takeWhile_append_dropWhile, List.reverse_reverse]
  · intro b hb
    have hslash : (b == slash) = true :=
      List.mem_takeWhile_imp (p := (· == slash)) (List.mem_reverse.1 hb)
    exact eq_of_beq hslash
  · intro hnil
    rw [List.reverse_eq_nil_iff, List.dropWhile_eq_nil_iff] at hnil
    exact hall (List.all_eq_true.2 fun b hb => hnil b (List.mem_reverse.2 hb))
  · rw [List.getLast?_reverse]
    intro hhead
    have := List.head?_dropWhile_not (· == slash) p.octets.reverse
    simp [hhead] at this

theorem isAbsolute_bare (p : Path) : p.bare.isAbsolute = p.isAbsolute := by
  rcases bare_cases p with h | ⟨slashes, h, -, hne, -⟩
  · rw [h]
  · unfold isAbsolute
    cases hbare : p.bare.octets with
    | nil => exact absurd hbare hne
    | cons b rest => rw [h, hbare]; rfl

/-- Slashes at the end add no more than slashes to the steps. -/
theorem steps_bare (p : Path) :
    ∃ tail, p.steps = p.bare.steps ++ tail ∧ ∀ s ∈ tail, s = .slash := by
  rcases bare_cases p with h | ⟨slashes, h, hall, hne, hlast⟩
  · exact ⟨[], by rw [h, List.append_nil], by simp⟩
  have hmoves : p.moves = p.bare.moves := by
    have := moves_append_slashes hne hall
    rwa [← h] at this
  have hbare : p.bare.steps = p.bare.moves := steps_eq_moves (getLast?_pieces hne hlast)
  rw [steps_eq, hmoves, hbare]
  refine ⟨_, rfl, ?_⟩
  intro s hs
  split at hs
  · exact List.mem_singleton.1 hs
  · cases hs

/-! ## Names below a path -/

/-- The path that `names` lead to below `p`. -/
def extend (p : Path) (names : List Bytes) : Path := names.foldl (fun p name => p.join ⟨name⟩) p

theorem extend_nil (p : Path) : p.extend [] = p := rfl

theorem extend_concat (p : Path) (names : List Bytes) (name : Bytes) :
    p.extend (names ++ [name]) = (p.extend names).join ⟨name⟩ := by
  rw [extend, List.foldl_append]
  rfl

section Name

variable {name : Bytes} (h : isName name = true)
include h

theorem isAbsolute_name : (⟨name⟩ : Path).isAbsolute = false := by
  obtain ⟨-, -, -, -, hslash, -⟩ := isName_iff.1 h
  cases name with
  | nil => rfl
  | cons b rest =>
    rw [isAbsolute_cons, beq_eq_false_iff_ne]
    intro hb
    exact hslash (hb ▸ List.mem_cons_self)

theorem pieces_name : (⟨name⟩ : Path).pieces = [name] := by
  rw [pieces_of_relative (isAbsolute_name h)]
  exact splitAt_of_not_mem (isName_iff.1 h).2.2.2.2.1

theorem lead_name : (⟨name⟩ : Path).lead = [] := by
  simp [lead, isAbsolute_name h, pieces_name h, (isName_iff.1 h).2.1]

theorem components_name : (⟨name⟩ : Path).components = [.name name] := by
  obtain ⟨hnil, hdot, hdots, -⟩ := isName_iff.1 h
  rw [components_eq, lead_name h, pieces_name h]
  simp [Component.ofPiece, hnil, hdot, hdots]

theorem components_join_name (p : Path) :
    (p.join ⟨name⟩).components = p.components ++ [.name name] := by
  rw [components_join_of_name p (components_name h), components_name h]

theorem moves_name : (⟨name⟩ : Path).moves = [.name name] := by
  obtain ⟨hnil, hdot, hdots, -⟩ := isName_iff.1 h
  simp [moves, pieces_name h, stepOf, hnil, hdot, hdots]

end Name

section Names

variable {names : List Bytes}

theorem isAbsolute_extend (p : Path) (h : names.all isName = true) :
    (p.extend names).isAbsolute = p.isAbsolute := by
  induction names using List.reverseRecOn with
  | nil => rfl
  | append_singleton names name ih =>
    rw [List.all_append, Bool.and_eq_true, List.all_cons, Bool.and_eq_true] at h
    rw [extend_concat, isAbsolute_join (isAbsolute_name h.2.1), ih h.1]

theorem components_extend (p : Path) (h : names.all isName = true) :
    (p.extend names).components = p.components ++ names.map .name := by
  induction names using List.reverseRecOn with
  | nil => simp [extend_nil]
  | append_singleton names name ih =>
    rw [List.all_append, Bool.and_eq_true, List.all_cons, Bool.and_eq_true] at h
    rw [extend_concat, components_join _ (isAbsolute_name h.2.1) (lead_name h.2.1), ih h.1,
      components_name h.2.1, List.map_append, List.append_assoc]
    rfl

/-- Different names lead to different paths. -/
theorem extend_injective (p : Path) {names' : List Bytes} (h : names.all isName = true)
    (h' : names'.all isName = true)
    (heq : (p.extend names).components = (p.extend names').components) : names = names' := by
  rw [components_extend p h, components_extend p h'] at heq
  exact (List.map_inj_right fun a b h => by simpa using h).1 (List.append_cancel_left heq)

theorem moves_extend (p : Path) (h : names.all isName = true) :
    (p.extend names).moves = p.moves ++ names.map .name := by
  induction names using List.reverseRecOn with
  | nil => simp [extend_nil]
  | append_singleton names name ih =>
    rw [List.all_append, Bool.and_eq_true, List.all_cons, Bool.and_eq_true] at h
    rw [extend_concat, moves_join _ (isAbsolute_name h.2.1), ih h.1, moves_name h.2.1,
      List.map_append, List.append_assoc]
    rfl

/-- A path that ends in a name has no slash at its end. -/
theorem steps_extend (p : Path) (h : names.all isName = true) (hne : names ≠ []) :
    (p.extend names).steps = p.moves ++ names.map .name := by
  rw [← moves_extend p h]
  apply steps_eq_moves
  rcases List.eq_nil_or_concat names with rfl | ⟨init, name, rfl⟩
  · exact absurd rfl hne
  · rw [List.concat_eq_append] at h ⊢
    rw [List.all_append, Bool.and_eq_true, List.all_cons, Bool.and_eq_true] at h
    rw [extend_concat, getLast?_pieces_join _ (isAbsolute_name h.2.1), pieces_name h.2.1]
    simpa using (isName_iff.1 h.2.1).1

end Names

/-! ## Relative to a path and back -/

theorem join_ne_nil (p : Path) {q : Path} (hq : q.octets ≠ []) : (p.join q).octets ≠ [] := by
  unfold join
  split
  · exact hq
  · split <;> simp [hq]

theorem getLast?_join (p : Path) {q : Path} (hq : q.octets ≠ []) :
    (p.join q).octets.getLast? = q.octets.getLast? := by
  have hlast : ∀ bs : Bytes, (bs ++ q.octets).getLast? = q.octets.getLast? := by
    intro bs
    rw [List.getLast?_append, List.getLast?_eq_some_getLast hq]
    rfl
  unfold join
  split
  · rfl
  · split
    · exact hlast p.octets
    · simpa using hlast (p.octets ++ [slash])

theorem join_assoc (p : Path) {q r : Path} (hq : q.isAbsolute = false) (hne : q.octets ≠ [])
    (hr : r.isAbsolute = false) : (p.join q).join r = p.join (q.join r) := by
  have hqr : (q.join r).isAbsolute = false := (isAbsolute_join hr).trans hq
  have hpq : (p.join q).join r =
      if q.octets.getLast? = some slash then ⟨(p.join q).octets ++ r.octets⟩
      else ⟨(p.join q).octets ++ slash :: r.octets⟩ := by
    rw [join, hr, if_neg Bool.false_ne_true, getLast?_join p hne]
    simp [join_ne_nil p hne]
  have hq' : q.join r =
      if q.octets.getLast? = some slash then ⟨q.octets ++ r.octets⟩
      else ⟨q.octets ++ slash :: r.octets⟩ := by
    rw [join, hr, if_neg Bool.false_ne_true]
    simp [hne]
  rw [hpq, join, hq, join, hqr, hq']
  simp only [Bool.false_eq_true, if_false]
  by_cases hlast : q.octets.getLast? = some slash <;>
    by_cases hp : p.octets = [] ∨ p.octets.getLast? = some slash <;>
    simp [hlast, hp]

theorem join_extend (p : Path) {q : Path} {names : List Bytes} (h : names.all isName = true)
    (hq : q.isAbsolute = false) (hne : q.octets ≠ []) :
    p.join (q.extend names) = (p.join q).extend names := by
  induction names generalizing q with
  | nil => rfl
  | cons name names ih =>
    rw [List.all_cons, Bool.and_eq_true] at h
    have hname := isAbsolute_name h.1
    have hname' : (⟨name⟩ : Path).octets ≠ [] := (isName_iff.1 h.1).1
    have hjoin : (q.join ⟨name⟩).isAbsolute = false := (isAbsolute_join hname).trans hq
    calc p.join ((q.join ⟨name⟩).extend names)
        = (p.join (q.join ⟨name⟩)).extend names := ih h.2 hjoin (join_ne_nil q hname')
      _ = ((p.join q).join ⟨name⟩).extend names := by rw [join_assoc p hq hne hname]

/-- Names joined from nothing lead on from `p` as they do joined to it one by one. -/
theorem join_extend_nil (p : Path) {names : List Bytes} (h : names.all isName = true)
    (hne : names ≠ []) : p.join ((⟨[]⟩ : Path).extend names) = p.extend names := by
  cases names with
  | nil => exact absurd rfl hne
  | cons name names =>
    rw [List.all_cons, Bool.and_eq_true] at h
    have hname := isAbsolute_name h.1
    have : (⟨[]⟩ : Path).extend (name :: names) = (⟨name⟩ : Path).extend names := by
      change ((⟨[]⟩ : Path).join ⟨name⟩).extend names = _
      rw [join, hname]
      simp
    rw [this]
    exact join_extend p h.2 hname (isName_iff.1 h.1).1

theorem climb_append (cs ds : List Component) : climb true (cs ++ ds) cs = some ds := by
  induction cs with
  | nil => cases ds <;> rfl
  | cons c cs ih => simpa [climb] using ih

theorem ofComponents_names (names : List Bytes) :
    ofComponents (names.map .name) = (⟨[]⟩ : Path).extend names := by
  rw [ofComponents, List.foldl_map]
  rfl

/-- Relative to a path, what names lead to below it is the path of the names. -/
theorem relativeTo_extend (p : Path) {names : List Bytes} (h : names.all isName = true) :
    p.relativeTo (p.extend names) = (⟨[]⟩ : Path).extend names := by
  rw [relativeTo, if_pos (isAbsolute_extend p h), components_extend p h, climb_append]
  exact ofComponents_names names

end Path

end ConsumerCheck
