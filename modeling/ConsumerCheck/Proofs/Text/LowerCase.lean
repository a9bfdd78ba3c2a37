import ConsumerCheck.Proofs.Text.Ascii
import ConsumerCheck.Proofs.Text.Blank
import ConsumerCheck.Text.LowerCase

/-!
# Text that is in lower case already

What the tables map to, they do not map any further: it lies outside all their runs. None of it is the capital
sigma or the dotted capital `İ`, whose lower case depends on more than one character, and none of it is a blank.
So a text in lower case stays as it is wherever its characters stand, and the blanks around it are those that
were there before.

* `LowerCase.Settled` — a character that is its own lower case in every text.

Principal results: `toLower_toLower` — lower-casing twice does nothing more; `trim_toLower_trim` — a text that
was trimmed and then lower-cased has no blanks to trim.
-/

namespace ConsumerCheck

namespace LowerCase

/-! ## The table -/

/-- The last code point that a run maps to. -/
def Run.limit (r : Run) : Nat := r.target + (r.last - r.first)

/-- Whether what the first run maps to lies before the second, behind it, or between its points. -/
def Run.apart (r r' : Run) : Bool :=
  Nat.blt r.limit r'.first || Nat.blt r'.last r.target ||
    r'.stride == 2 && (r.stride == 2 || r.first == r.last) && (r.target + r'.first) % 2 == 1

theorem Run.covers_iff {r : Run} {n : Nat} :
    r.covers n = true ↔ r.first ≤ n ∧ n ≤ r.last ∧ (n - r.first) % r.stride = 0 := by
  simp [Run.covers, and_assoc]

theorem Run.not_covers_of_apart {r r' : Run} (h : r.apart r' = true) {n : Nat}
    (hn : r.covers n = true) : r'.covers (r.target + (n - r.first)) = false := by
  obtain ⟨hfirst, hlast, hstride⟩ := Run.covers_iff.1 hn
  simp only [apart, limit, Bool.or_eq_true, Bool.and_eq_true, Nat.blt_eq, beq_iff_eq] at h
  rw [← Bool.not_eq_true, Run.covers_iff]
  rintro ⟨hfirst', hlast', hstride'⟩
  rcases h with (hbefore | hbehind) | ⟨⟨htwo', htwo | hone⟩, hodd⟩
  · omega
  · omega
  · -- both runs have every second point, and begin with points of different parity
    rw [htwo] at hstride
    rw [htwo'] at hstride'
    omega
  · rw [htwo'] at hstride'
    omega

theorem apart_of_mem {r r' : Run} (hr : r ∈ lowerRuns) (hr' : r' ∈ lowerRuns) : r.apart r' = true := by
  have hall : lowerRuns.all (fun r => lowerRuns.all r.apart) = true := by decide +kernel
  exact List.all_eq_true.1 (List.all_eq_true.1 hall r hr) r' hr'

theorem valid_of_mem :
    ∀ r ∈ lowerRuns, r.limit < 0xD800 ∨ 0xDFFF < r.target ∧ r.limit < 0x110000 := by
  decide +kernel

/-- The code points of the blanks, and of the dotted capital. -/
def reserved : List Nat :=
  [0x9, 0xA, 0xB, 0xC, 0xD, 0x20, 0x85, 0xA0, 0x130, 0x1680, 0x2000, 0x2001, 0x2002, 0x2003, 0x2004,
    0x2005, 0x2006, 0x2007, 0x2008, 0x2009, 0x200A, 0x2028, 0x2029, 0x202F, 0x205F, 0x3000]

theorem reserved_of_mem : ∀ r ∈ lowerRuns, ∀ n ∈ reserved, n < r.target ∨ r.limit < n := by
  decide +kernel

theorem mem_reserved_of_isBlank {c : Char} (h : isBlank c = true) : c.toNat ∈ reserved := by
  simp only [isBlank, Bool.or_eq_true, Bool.and_eq_true, decide_eq_true_eq, beq_iff_eq] at h
  simp only [reserved, List.mem_cons, List.not_mem_nil, or_false]
  omega

/-! ## One character -/

/-- The character is its own lower case in every text. -/
def Settled (c : Char) : Prop := simple c = c ∧ c ≠ 'Σ' ∧ c ≠ 'İ'

instance : DecidablePred Settled := fun _ => inferInstanceAs (Decidable (_ ∧ _ ∧ _))

/-- A character is mapped by arithmetic, by a run, or not at all. -/
theorem simple_cases (c : Char) :
    c.toNat < 0x80 ∨
    (∃ r ∈ lowerRuns, r.covers c.toNat = true ∧
      simple c = Char.ofNat (r.target + (c.toNat - r.first))) ∨
    (∀ r ∈ lowerRuns, r.covers c.toNat = false) ∧ simple c = c := by
  by_cases hascii : c.toNat < 0x80
  · exact .inl hascii
  · cases hfind : lowerRuns.find? (·.covers c.toNat) with
    | some r =>
      have hcovers : r.covers c.toNat = true :=
        List.find?_some (p := fun r : Run => r.covers c.toNat) hfind
      refine .inr (.inl ⟨r, List.mem_of_find?_eq_some hfind, hcovers, ?_⟩)
      simp [simple, hascii, hfind]
    | none =>
      refine .inr (.inr ⟨fun r hr => ?_, by simp [simple, hascii, hfind]⟩)
      exact Bool.eq_false_iff.2 (List.find?_eq_none.1 hfind r hr)

theorem settled_of_uncovered {c : Char} (h : ∀ r ∈ lowerRuns, r.covers c.toNat = false)
    (hdot : c ≠ 'İ') : Settled c := by
  refine ⟨?_, ?_, hdot⟩
  · -- the letters that are mapped by arithmetic are a run as well
    have hletters := h ⟨0x41, 0x5A, 1, 0x61⟩ (by decide)
    rw [← Bool.not_eq_true, Run.covers_iff] at hletters
    dsimp only at hletters
    rcases simple_cases c with hascii | ⟨r, hr, hcovers, -⟩ | ⟨-, hsame⟩
    · rw [simple, if_pos hascii, if_neg (by omega)]
    · rw [h r hr] at hcovers
      cases hcovers
    · exact hsame
  · rintro rfl
    exact absurd (h ⟨0x3A3, 0x3AB, 1, 0x3C3⟩ (by decide +kernel)) (by decide)

/-- What a run maps a character to has the number that the run gives. -/
theorem toNat_of_covers {r : Run} (hr : r ∈ lowerRuns) {n : Nat} (hn : r.covers n = true) :
    (Char.ofNat (r.target + (n - r.first))).toNat = r.target + (n - r.first) ∧
      r.target + (n - r.first) ≤ r.limit := by
  obtain ⟨hfirst, hlast, -⟩ := Run.covers_iff.1 hn
  have hlimit : r.target + (n - r.first) ≤ r.limit := by
    rw [Run.limit]
    omega
  refine ⟨Utf8.toNat_charOfNat ?_, hlimit⟩
  rcases valid_of_mem r hr with hlow | ⟨hhigh, hlow⟩
  · exact .inl (by omega)
  · exact .inr ⟨by omega, by omega⟩

theorem not_reserved_of_covers {r : Run} (hr : r ∈ lowerRuns) {n : Nat} (hn : r.covers n = true) :
    (Char.ofNat (r.target + (n - r.first))).toNat ∉ reserved := by
  intro hmem
  obtain ⟨hnat, hlimit⟩ := toNat_of_covers hr hn
  rw [hnat] at hmem
  have hreserved := reserved_of_mem r hr _ hmem
  omega

/-- **What is mapped is mapped no further.** -/
theorem settled_simple {c : Char} (hdot : c ≠ 'İ') : Settled (simple c) := by
  have hascii : ∀ n < 0x80, Settled (simple (Char.ofNat n)) := by decide +kernel
  rcases simple_cases c with hc | ⟨r, hr, hcovers, hsimple⟩ | ⟨huncovered, hsame⟩
  · simpa using hascii c.toNat hc
  · have hreserved := not_reserved_of_covers hr hcovers
    rw [← hsimple] at hreserved
    refine settled_of_uncovered (fun r' hr' => ?_) ?_
    · rw [hsimple, (toNat_of_covers hr hcovers).1]
      exact Run.not_covers_of_apart (apart_of_mem hr hr') hcovers
    · intro hdot
      rw [hdot] at hreserved
      exact hreserved (by decide)
  · rw [hsame]
    exact settled_of_uncovered huncovered hdot

theorem isBlank_simple {c : Char} (h : isBlank c = false) : isBlank (simple c) = false := by
  have hascii : ∀ n < 0x80, isBlank (Char.ofNat n) = false →
      isBlank (simple (Char.ofNat n)) = false := by
    decide +kernel
  rcases simple_cases c with hc | ⟨r, hr, hcovers, hsimple⟩ | ⟨-, hsame⟩
  · simpa [h] using hascii c.toNat hc
  · rw [← Bool.not_eq_true]
    intro hblank
    rw [hsimple] at hblank
    exact not_reserved_of_covers hr hcovers (mem_reserved_of_isBlank hblank)
  · rw [hsame, h]

/-! ## A text -/

theorem uncovered_of_fixed :
    ∀ n ∈ [0x3C2, 0x3C3, 0x69, 0x307], ∀ r ∈ lowerRuns, r.covers n = false := by
  decide +kernel

/-- What the two capitals become that no run maps is settled as well. -/
theorem settled_of_fixed {d : Char} (h : d ∈ ['ς', 'σ', 'i', '\u0307']) :
    Settled d ∧ isBlank d = false := by
  obtain ⟨hpoint, hdot, hblank⟩ :
      d.toNat ∈ [0x3C2, 0x3C3, 0x69, 0x307] ∧ d ≠ 'İ' ∧ isBlank d = false := by
    simp only [List.mem_cons, List.not_mem_nil, or_false] at h
    rcases h with rfl | rfl | rfl | rfl <;> decide
  exact ⟨settled_of_uncovered (uncovered_of_fixed _ hpoint) hdot, hblank⟩

/-- What the first character of a text becomes, wherever it stands. -/
theorem lower_cons (before : List Char) (c : Char) (rest : List Char) :
    ∃ here, lower before (c :: rest) = here ++ lower (c :: before) rest ∧ here ≠ [] ∧
      (∀ d ∈ here, Settled d) ∧ (isBlank c = false → ∀ d ∈ here, isBlank d = false) := by
  by_cases hone : c = 'Σ' ∨ c = 'İ'
  · obtain ⟨here, hlower, hne, hfixed⟩ : ∃ here,
        lower before (c :: rest) = here ++ lower (c :: before) rest ∧ here ≠ [] ∧
          ∀ d ∈ here, d ∈ ['ς', 'σ', 'i', '\u0307'] := by
      refine ⟨_, rfl, ?_⟩
      rcases hone with rfl | rfl
      · rw [if_pos rfl]
        split <;> simp
      · simp
    exact ⟨here, hlower, hne, fun d hd => (settled_of_fixed (hfixed d hd)).1,
      fun _ d hd => (settled_of_fixed (hfixed d hd)).2⟩
  · rw [not_or] at hone
    have hlower : lower before (c :: rest) = [simple c] ++ lower (c :: before) rest := by
      rw [lower, if_neg hone.1, if_neg hone.2]
    exact ⟨_, hlower, by simp, by simpa using settled_simple hone.2, by simpa using isBlank_simple⟩

theorem settled_of_mem_lower {before cs : List Char} : ∀ d ∈ lower before cs, Settled d := by
  induction cs generalizing before with
  | nil => simp [lower]
  | cons c cs ih =>
    obtain ⟨here, hlower, -, hsettled, -⟩ := lower_cons before c cs
    rw [hlower]
    intro d hd
    rcases List.mem_append.1 hd with hd | hd
    · exact hsettled d hd
    · exact ih d hd

theorem lower_eq_self {before cs : List Char} (h : ∀ c ∈ cs, Settled c) : lower before cs = cs := by
  induction cs generalizing before with
  | nil => rfl
  | cons c cs ih =>
    obtain ⟨⟨hsimple, hsigma, hdot⟩, hcs⟩ := List.forall_mem_cons.1 h
    rw [lower, if_neg hsigma, if_neg hdot, hsimple, ih hcs]
    rfl

end LowerCase

namespace Text

/-- **A text in lower case stays as it is.** -/
theorem toLower_toLower (text : String) : toLower (toLower text) = toLower text := by
  rw [toLower, toLower, String.toList_ofList,
    LowerCase.lower_eq_self LowerCase.settled_of_mem_lower]

/-! ## Blanks around a text -/

theorem Trimmed.lower {before cs : List Char} (h : Trimmed cs) :
    Trimmed (LowerCase.lower before cs) := by
  constructor
  · cases cs with
    | nil => simp [LowerCase.lower]
    | cons c cs =>
      obtain ⟨here, hlower, hne, -, hblank⟩ := LowerCase.lower_cons before c cs
      rw [hlower, List.head?_append_of_ne_nil _ hne]
      exact fun d hd => hblank (h.1 c rfl) d (List.mem_of_mem_head? hd)
  · -- the last character of the text gives the last one of its lower case
    have hlast := h.2
    clear h
    induction cs generalizing before with
    | nil => simp [LowerCase.lower]
    | cons c cs ih =>
      obtain ⟨here, hlower, -, -, hblank⟩ := LowerCase.lower_cons before c cs
      rw [hlower]
      cases cs with
      | nil =>
        rw [LowerCase.lower, List.append_nil]
        exact fun d hd => hblank (hlast c rfl) d (List.mem_of_mem_getLast? hd)
      | cons next cs =>
        obtain ⟨there, hnext, hne, -⟩ := LowerCase.lower_cons (c :: before) next cs
        rw [List.getLast?_append_of_ne_nil _ (by rw [hnext]; simp [hne])]
        exact ih hlast

/-- **A text that was trimmed and then lower-cased has no blanks to trim.** -/
theorem trim_toLower_trim (text : String) : trim (toLower (trim text)) = toLower (trim text) := by
  refine trim_eq_self ?_
  rw [toLower, String.toList_ofList]
  exact (trimmed_trim text).lower

end Text

end ConsumerCheck
