import ConsumerCheck.Path.Basic

/-!
# Texts as octets and back

The octets of a character lead the machine that reads them from one start to the next and give the character
back, whatever follows. So the octets of a text are read as that text.

* `Path.IsText`, `Path.legible` — the path is text; what text can hold of it.

Principal results: `items_utf8EncodeChar` — what is read from the octets of one character; `decodeLossy_encode`
— the octets of a text are read as that text; `Path.display_ofText` — a path that is given as text is shown as it
was given.
-/

namespace ConsumerCheck

namespace Utf8

variable {low high : UInt8} {more bits n : Nat} {rest : Bytes}

/-! ## One octet -/

theorem begin_one : ∀ n < 0x80, begin (.ofNat n) = ([some (Char.ofNat n)], .start) := by
  decide +kernel

theorem begin_two : ∀ n < 0x20, 2 ≤ n →
    begin (.ofNat (n + 0xC0)) = ([], .inside 0 0x80 0xBF n) := by
  decide +kernel

/-- The second of three octets is bounded so that no shorter form and no surrogate comes out. -/
theorem begin_three : ∀ n < 0x10, begin (.ofNat (n + 0xE0)) =
    ([], .inside 1 (if n = 0 then 0xA0 else 0x80) (if n = 0xD then 0x9F else 0xBF) n) := by
  decide +kernel

/-- The second of four octets is bounded so that no shorter form and nothing too large comes out. -/
theorem begin_four : ∀ n < 5, begin (.ofNat (n + 0xF0)) =
    ([], .inside 2 (if n = 0 then 0x90 else 0x80) (if n = 4 then 0x8F else 0xBF) n) := by
  decide +kernel

theorem items_begin {b : UInt8} {out : List (Option Char)} {state : State}
    (h : begin b = (out, state)) : items .start (b :: rest) = out ++ items state rest := by
  rw [items, step, h]

theorem toNat_continuation (h : n < 64) : (UInt8.ofNat (n + 0x80)).toNat = n + 0x80 := by
  rw [UInt8.toNat_ofNat']
  omega

theorem le_continuation (h : n < 64) : low ≤ UInt8.ofNat (n + 0x80) ↔ low.toNat ≤ n + 0x80 := by
  rw [UInt8.le_iff_toNat_le, toNat_continuation h]

theorem continuation_le (h : n < 64) : UInt8.ofNat (n + 0x80) ≤ high ↔ n + 0x80 ≤ high.toNat := by
  rw [UInt8.le_iff_toNat_le, toNat_continuation h]

theorem items_last (h : n < 64) (hlow : low.toNat ≤ n + 0x80) (hhigh : n + 0x80 ≤ high.toNat) :
    items (.inside 0 low high bits) (.ofNat (n + 0x80) :: rest) =
      some (Char.ofNat (bits * 64 + n)) :: items .start rest := by
  rw [items, step, if_pos ⟨(le_continuation h).2 hlow, (continuation_le h).2 hhigh⟩,
    toNat_continuation h]
  simp

theorem items_continue (h : n < 64) (hlow : low.toNat ≤ n + 0x80) (hhigh : n + 0x80 ≤ high.toNat) :
    items (.inside (more + 1) low high bits) (.ofNat (n + 0x80) :: rest) =
      items (.inside more 0x80 0xBF (bits * 64 + n)) rest := by
  rw [items, step, if_pos ⟨(le_continuation h).2 hlow, (continuation_le h).2 hhigh⟩,
    toNat_continuation h]
  simp

/-! ## One character -/

/-- **The octets of a character give it back, whatever follows.** -/
theorem items_utf8EncodeChar (c : Char) (rest : Bytes) :
    items .start (String.utf8EncodeChar c ++ rest) = some c :: items .start rest := by
  obtain hvalid : c.toNat < 0xD800 ∨ 0xDFFF < c.toNat ∧ c.toNat < 0x110000 := c.valid
  have hchar : Char.ofNat c.toNat = c := Char.ofNat_toNat c
  rw [String.utf8EncodeChar, show c.val.toNat = c.toNat from rfl]
  generalize c.toNat = v at hvalid hchar
  split
  · -- one octet
    rw [List.singleton_append, items_begin (begin_one v (by omega)), hchar]
    rfl
  split
  · -- two octets
    rw [Nat.mod_eq_of_lt (by omega : v / 64 < 32)]
    have hbits : v / 64 * 64 + v % 64 = v := by omega
    rw [List.cons_append, List.singleton_append,
      items_begin (begin_two (v / 64) (by omega) (by omega)), List.nil_append,
      items_last (by omega) (by simp) (by simp; omega), hbits, hchar]
  split
  · -- three octets
    rw [Nat.mod_eq_of_lt (by omega : v / 4096 < 16)]
    have hbits : (v / 4096 * 64 + v / 64 % 64) * 64 + v % 64 = v := by omega
    have hlow : (if v / 4096 = 0 then 0xA0 else 0x80 : UInt8).toNat ≤ v / 64 % 64 + 0x80 := by
      split
      · simp
        omega
      · simp
    -- a surrogate would come out above this bound
    have hhigh : v / 64 % 64 + 0x80 ≤ (if v / 4096 = 0xD then 0x9F else 0xBF : UInt8).toNat := by
      split
      · simp
        omega
      · simp
        omega
    rw [List.cons_append, List.cons_append, List.singleton_append,
      items_begin (begin_three (v / 4096) (by omega)), List.nil_append,
      items_continue (by omega) hlow hhigh, items_last (by omega) (by simp) (by simp; omega), hbits,
      hchar]
  · -- four octets
    rw [Nat.mod_eq_of_lt (by omega : v / 262144 < 8)]
    have hbits : ((v / 262144 * 64 + v / 4096 % 64) * 64 + v / 64 % 64) * 64 + v % 64 = v := by omega
    have hlow : (if v / 262144 = 0 then 0x90 else 0x80 : UInt8).toNat ≤ v / 4096 % 64 + 0x80 := by
      split
      · simp
        omega
      · simp
    have hhigh : v / 4096 % 64 + 0x80 ≤ (if v / 262144 = 4 then 0x8F else 0xBF : UInt8).toNat := by
      split
      · simp
        omega
      · simp
        omega
    rw [List.cons_append, List.cons_append, List.cons_append, List.singleton_append,
      items_begin (begin_four (v / 262144) (by omega)), List.nil_append,
      items_continue (by omega) hlow hhigh, items_continue (by omega) (by simp) (by simp; omega),
      items_last (by omega) (by simp) (by simp; omega), hbits, hchar]

/-! ## A text -/

theorem items_encode (text : String) (rest : Bytes) :
    items .start (encode text ++ rest) = text.toList.map some ++ items .start rest := by
  rw [encode]
  induction text.toList with
  | nil => rfl
  | cons c cs ih =>
    rw [List.flatMap_cons, List.append_assoc, items_utf8EncodeChar, ih]
    rfl

theorem items_encode_self (text : String) : items .start (encode text) = text.toList.map some := by
  simpa [items] using items_encode text []

/-- **The octets of a text are read as that text.** -/
theorem decodeLossy_encode (text : String) : decodeLossy (encode text) = text := by
  rw [decodeLossy, items_encode_self, List.map_map]
  exact (congrArg String.ofList (List.map_id _)).trans (String.ofList_toList)

theorem decode?_encode (text : String) : decode? (encode text) = some text := by
  have hchars : (text.toList.map some).mapM id = some text.toList := by
    induction text.toList with
    | nil => rfl
    | cons c cs ih => rw [List.map_cons, List.mapM_cons, ih]; rfl
  rw [decode?, items_encode_self, hchars, Option.map_some, String.ofList_toList]

/-- An octet below 0x80 is a character by itself. -/
theorem decodeLossy_cons {n : Nat} (h : n < 0x80) (rest : Bytes) :
    (decodeLossy (.ofNat n :: rest)).toList = Char.ofNat n :: (decodeLossy rest).toList := by
  rw [decodeLossy, items_begin (begin_one n h), decodeLossy]
  simp

end Utf8

namespace Path

theorem display_ofText (text : String) : (ofText text).display = text := Utf8.decodeLossy_encode text

/-- The octets of the path are those of a text. -/
def IsText (p : Path) : Prop := ∃ text, p = .ofText text

/-- What text can hold of the path. -/
def legible (p : Path) : Path := .ofText p.display

theorem legible_eq_iff {p : Path} : p.legible = p ↔ p.IsText := by
  constructor
  · exact fun h => ⟨p.display, h.symm⟩
  · rintro ⟨text, rfl⟩
    rw [legible, display_ofText]

theorem map_legible_eq_iff {ps : List Path} : ps.map legible = ps ↔ ∀ p ∈ ps, p.IsText := by
  induction ps with
  | nil => simp
  | cons p ps ih => rw [List.map_cons, List.cons.injEq, legible_eq_iff, ih, List.forall_mem_cons]

/-- The octets of such a path are read as the text that it is shown as. -/
theorem IsText.decode? {p : Path} (h : p.IsText) : Utf8.decode? p.octets = some p.display := by
  obtain ⟨text, rfl⟩ := h
  rw [display_ofText]
  exact Utf8.decode?_encode text

/-- An absolute path is shown with a slash in front. -/
theorem head?_display_of_isAbsolute {p : Path} (h : p.isAbsolute = true) :
    p.display.toList.head? = some '/' := by
  obtain ⟨rest, hrest⟩ := List.head?_eq_some_iff.1 (beq_iff_eq.1 h)
  rw [display, hrest]
  exact congrArg List.head? (Utf8.decodeLossy_cons (by decide : 0x2F < 0x80) rest)

end Path

end ConsumerCheck
