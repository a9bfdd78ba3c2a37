import ConsumerCheck.Proofs.Text.Utf8

/-!
# Octets below 0x80 and the characters that they stand for

An octet below 0x80 is a character wherever it stands: a character that has begun before it ends there, as a part
that is not UTF-8. And no other octets make up such a character. So reading octets as text, whatever they are,
neither adds nor removes such characters, and what is on one side of them is read without the other.

* `State.Wide` — no character below 0x80 can come of what has begun.

Principal results: `encode_decodeLossy_append` — the parts on both sides of such an octet are read one without the
other; `mem_of_mem_encode_decodeLossy` — such an octet is in the text only if it was there before.
-/

namespace ConsumerCheck.Utf8

variable {state : State} {octets rest : Bytes} {b : UInt8} {n : Nat}

/-! ## Numbers below 0x80 -/

theorem toNat_charOfNat {v : Nat} (hv : v.isValidChar) : (Char.ofNat v).toNat = v := by
  rw [Char.ofNat, dif_pos hv]
  rfl

theorem eq_of_charOfNat_eq {v : Nat} (hpos : 0 < n) (hn : n < 0x80)
    (h : Char.ofNat v = Char.ofNat n) : v = n := by
  have hnat : (Char.ofNat n).toNat = n := toNat_charOfNat (.inl (by omega))
  by_cases hv : v.isValidChar
  · rw [← toNat_charOfNat hv, h, hnat]
  · -- no character has this number, and zero is taken instead
    have hzero : (Char.ofNat v).toNat = 0 := by
      rw [Char.ofNat, dif_neg hv]
      rfl
    rw [h, hnat] at hzero
    omega

theorem octet_ne {v : Nat} (hn : n < 0x80) (hv : 0x80 ≤ v) (hv' : v < 0x100) :
    UInt8.ofNat n ≠ UInt8.ofNat v := by
  intro h
  have hnat := congrArg UInt8.toNat h
  rw [UInt8.toNat_ofNat', UInt8.toNat_ofNat'] at hnat
  omega

theorem utf8EncodeChar_ascii :
    ∀ n < 0x80, String.utf8EncodeChar (Char.ofNat n) = [UInt8.ofNat n] := by
  decide +kernel

/-- Only the character itself is written with an octet below 0x80. -/
theorem eq_of_mem_utf8EncodeChar {c : Char} (hn : n < 0x80)
    (h : .ofNat n ∈ String.utf8EncodeChar c) : c = Char.ofNat n := by
  rw [String.utf8EncodeChar, show c.val.toNat = c.toNat from rfl] at h
  have hchar : Char.ofNat c.toNat = c := Char.ofNat_toNat c
  generalize c.toNat = v at h hchar
  split at h
  · rename_i hv
    have hnat := congrArg UInt8.toNat (List.mem_singleton.1 h)
    rw [UInt8.toNat_ofNat', UInt8.toNat_ofNat'] at hnat
    rw [← hchar, show v = n by omega]
  split at h
  · simp only [List.mem_cons, List.not_mem_nil, or_false] at h
    rcases h with h | h
    all_goals exact absurd h (octet_ne hn (by omega) (by omega))
  split at h
  · simp only [List.mem_cons, List.not_mem_nil, or_false] at h
    rcases h with h | h | h
    all_goals exact absurd h (octet_ne hn (by omega) (by omega))
  · simp only [List.mem_cons, List.not_mem_nil, or_false] at h
    rcases h with h | h | h | h
    all_goals exact absurd h (octet_ne hn (by omega) (by omega))

/-! ## One octet -/

/-- An octet that goes on with what has begun is at least 0x80, and so is every character that can come of it. -/
def State.Wide : State → Prop
  | .start => True
  | .inside 0 low _ bits => 0x80 ≤ low.toNat ∧ 0x80 ≤ bits * 64 + (low.toNat - 0x80)
  | .inside (_ + 1) low _ bits => 0x80 ≤ low.toNat ∧ 2 ≤ bits * 64 + (low.toNat - 0x80)

instance : DecidablePred State.Wide
  | .start => isTrue trivial
  | .inside 0 .. => inferInstanceAs (Decidable (_ ∧ _))
  | .inside (_ + 1) .. => inferInstanceAs (Decidable (_ ∧ _))

theorem State.Wide.low_le {more bits : Nat} {low high : UInt8}
    (h : (State.inside more low high bits).Wide) : 0x80 ≤ low.toNat := by
  cases more with
  | zero => exact h.1
  | succ more => exact h.1

theorem wide_begin (b : UInt8) : (begin b).2.Wide := by
  have hall : ∀ n < 256, (begin (.ofNat n)).2.Wide := by decide +kernel
  simpa using hall b.toNat b.toNat_lt

theorem wide_step (h : state.Wide) (b : UInt8) : (step state b).2.Wide := by
  cases state with
  | start => exact wide_begin b
  | inside more low high bits =>
    by_cases hrange : low ≤ b ∧ b ≤ high
    · have hb : low.toNat ≤ b.toNat := UInt8.le_iff_toNat_le.1 hrange.1
      rw [step, if_pos hrange]
      cases more with
      | zero => trivial
      | succ more =>
        -- the least octet that goes on now gave the least character
        have hbits : 2 ≤ bits * 64 + (low.toNat - 0x80) := h.2
        cases more with
        | zero => exact ⟨by decide, by simp; omega⟩
        | succ more => exact ⟨by decide, by simp; omega⟩
    · rw [step, if_neg hrange]
      exact wide_begin b

theorem items_cons (state : State) (b : UInt8) (rest : Bytes) :
    items state (b :: rest) = (step state b).1 ++ items (step state b).2 rest := by
  cases state <;> rfl

/-- An octet below 0x80 ends what has begun, and is a character. -/
theorem items_ascii (h : state.Wide) (hn : n < 0x80) (rest : Bytes) :
    items state (.ofNat n :: rest) = items state [] ++ some (Char.ofNat n) :: items .start rest := by
  have hbegin := begin_one n hn
  cases state with
  | start => rw [items_begin hbegin]; rfl
  | inside more low high bits =>
    have hlow := h.low_le
    have houtside : ¬(low ≤ UInt8.ofNat n ∧ UInt8.ofNat n ≤ high) := by
      rw [UInt8.le_iff_toNat_le, UInt8.toNat_ofNat']
      omega
    rw [items_cons, step, if_neg houtside, hbegin]
    rfl

theorem eq_of_mem_begin (hpos : 0 < n) (hn : n < 0x80) (h : some (Char.ofNat n) ∈ (begin b).1) :
    b = .ofNat n := by
  have hall : ∀ m < 256, ∀ c ∈ (begin (.ofNat m)).1, c = none ∨ c = some (Char.ofNat m) := by
    decide +kernel
  have hb : UInt8.ofNat b.toNat = b := by simp
  rcases hall b.toNat b.toNat_lt _ (by rwa [hb]) with hnone | hsome
  · cases hnone
  · rw [← eq_of_charOfNat_eq hpos hn (Option.some.inj hsome).symm, hb]

/-- A character below 0x80 comes of its octet alone. -/
theorem eq_of_mem_step (h : state.Wide) (hpos : 0 < n) (hn : n < 0x80)
    (hmem : some (Char.ofNat n) ∈ (step state b).1) : b = .ofNat n := by
  cases state with
  | start => exact eq_of_mem_begin hpos hn hmem
  | inside more low high bits =>
    by_cases hrange : low ≤ b ∧ b ≤ high
    · have hb : low.toNat ≤ b.toNat := UInt8.le_iff_toNat_le.1 hrange.1
      rw [step, if_pos hrange] at hmem
      cases more with
      | zero =>
        have hbits : 0x80 ≤ bits * 64 + (low.toNat - 0x80) := h.2
        have hchar := Option.some.inj (List.mem_singleton.1 hmem)
        have hnat := eq_of_charOfNat_eq hpos hn hchar.symm
        omega
      | succ more => cases hmem
    · rw [step, if_neg hrange] at hmem
      rcases List.mem_cons.1 hmem with hnone | hmem
      · cases hnone
      · exact eq_of_mem_begin hpos hn hmem

/-! ## All octets -/

theorem items_append_ascii (h : state.Wide) (hn : n < 0x80) (octets rest : Bytes) :
    items state (octets ++ .ofNat n :: rest) =
      items state octets ++ some (Char.ofNat n) :: items .start rest := by
  induction octets generalizing state with
  | nil => exact items_ascii h hn rest
  | cons b octets ih =>
    rw [List.cons_append, items_cons, items_cons, ih (wide_step h b), List.append_assoc]

theorem mem_of_mem_items (h : state.Wide) (hpos : 0 < n) (hn : n < 0x80)
    (hmem : some (Char.ofNat n) ∈ items state octets) : .ofNat n ∈ octets := by
  induction octets generalizing state with
  | nil => cases state <;> simp [items] at hmem
  | cons b octets ih =>
    rw [items_cons] at hmem
    rcases List.mem_append.1 hmem with hhere | hlater
    · rw [eq_of_mem_step h hpos hn hhere]
      exact List.mem_cons_self
    · exact List.mem_cons_of_mem _ (ih (wide_step h b) hlater)

/-- **What is on one side of an octet below 0x80 is read without the other.** -/
theorem encode_decodeLossy_append (hn : n < 0x80) (octets rest : Bytes) :
    encode (decodeLossy (octets ++ .ofNat n :: rest)) =
      encode (decodeLossy octets) ++ .ofNat n :: encode (decodeLossy rest) := by
  have hwide : State.start.Wide := trivial
  simp only [encode, decodeLossy, items_append_ascii hwide hn, String.toList_ofList, List.map_append,
    List.map_cons, Option.getD_some, List.flatMap_append, List.flatMap_cons,
    utf8EncodeChar_ascii n hn, List.singleton_append]

/-- **An octet below 0x80 is in what was read only if it was there before.** -/
theorem mem_of_mem_encode_decodeLossy (hpos : 0 < n) (hn : n < 0x80)
    (h : .ofNat n ∈ encode (decodeLossy octets)) : .ofNat n ∈ octets := by
  obtain ⟨c, hc, hoctet⟩ := List.mem_flatMap.1 h
  obtain rfl := eq_of_mem_utf8EncodeChar hn hoctet
  rw [decodeLossy, String.toList_ofList] at hc
  obtain ⟨item, hitem, hread⟩ := List.mem_map.1 hc
  cases item with
  | none =>
    -- what stands for a part that is not UTF-8 is no character below 0x80
    have hnat : 0xFFFD = n := eq_of_charOfNat_eq hpos hn hread
    omega
  | some c =>
    rw [Option.getD_some] at hread
    rw [hread] at hitem
    have hwide : State.start.Wide := trivial
    exact mem_of_mem_items hwide hpos hn hitem

end ConsumerCheck.Utf8
