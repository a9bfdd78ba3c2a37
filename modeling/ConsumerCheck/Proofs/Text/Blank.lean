import ConsumerCheck.Text.Blank
import Mathlib.Data.List.DropRight

/-!
# Blanks in a text

A text consists of what is left without the blanks at its end and of these blanks. What is left does not end in
a blank, has the same characters other than blanks, and is empty exactly if the text has no others.

* `Trimmed` — a text with no blank at either end;
* `EndTrimmed` — a text without the blanks at its end;
* `visible` — the characters of a text other than blanks.

Principal results: `trimmed_trim` and `trim_eq_self` — trimming gives a trimmed text and keeps one;
`endTrimmed_trimEnd` — what is left by `trimEnd`; `EndTrimmed.visible_eq` — only blanks are lost.
-/

namespace ConsumerCheck.Text

/-! ## Blanks around a text -/

/-- There is no blank at either end. -/
def Trimmed (cs : List Char) : Prop :=
  (∀ c ∈ cs.head?, isBlank c = false) ∧ ∀ c ∈ cs.getLast?, isBlank c = false

theorem dropBlankEnd_eq (cs : List Char) : dropBlankEnd cs = cs.rdropWhile isBlank := rfl

theorem trimmed_trim (text : String) : Trimmed (trim text).toList := by
  rw [trim, String.toList_ofList, dropBlankEnd_eq]
  constructor
  · intro c hc
    obtain ⟨behind, hbehind⟩ := List.rdropWhile_prefix isBlank (text.toList.dropWhile isBlank)
    have hhead : (text.toList.dropWhile isBlank).head? = some c := by
      rw [← hbehind, List.head?_append, hc]
      rfl
    simpa [hhead] using List.head?_dropWhile_not isBlank text.toList
  · intro c hc
    obtain ⟨hne, rfl⟩ := List.mem_getLast?_eq_getLast hc
    simpa using List.rdropWhile_last_not isBlank (text.toList.dropWhile isBlank) hne

theorem trim_eq_self {text : String} (h : Trimmed text.toList) : trim text = text := by
  obtain ⟨hhead, hlast⟩ := h
  have hfront : text.toList.dropWhile isBlank = text.toList := by
    cases hcs : text.toList with
    | nil => rfl
    | cons c cs => rw [List.dropWhile_cons_of_neg (by simp [hhead c (by rw [hcs]; rfl)])]
  have hend : text.toList.rdropWhile isBlank = text.toList := by
    rw [List.rdropWhile_eq_self_iff]
    intro hne
    simp [hlast _ (List.getLast?_eq_some_getLast hne)]
  rw [trim, hfront, dropBlankEnd_eq, hend, String.ofList_toList]

/-- Nothing is left of a text exactly if it has nothing but blanks. -/
theorem trim_eq_empty_iff {text : String} : trim text = "" ↔ isBlankText text = true := by
  rw [trim, String.ofList_eq_empty_iff, dropBlankEnd_eq, List.rdropWhile_eq_nil_iff,
    ← List.dropWhile_eq_nil_iff, List.dropWhile_idempotent, List.dropWhile_eq_nil_iff, isBlankText,
    List.all_eq_true]

/-! ## Blanks at the end of a text -/

/-- The characters of a text other than blanks. -/
def visible (text : String) : List Char := text.toList.filter (!isBlank ·)

theorem visible_append (text rest : String) :
    visible (text ++ rest) = visible text ++ visible rest := by
  simp [visible]

/-- A text is blank exactly if it has no characters other than blanks. -/
theorem isBlankText_iff {text : String} : isBlankText text = true ↔ visible text = [] := by
  simp [isBlankText, visible]

/-- `block` is `text` without the blanks at its end. -/
structure EndTrimmed (text block : String) : Prop where
  split : ∃ blanks, text = block ++ blanks ∧ isBlankText blanks = true
  last : ∀ c ∈ block.toList.getLast?, isBlank c = false

theorem endTrimmed_trimEnd (text : String) : EndTrimmed text (trimEnd text) := by
  constructor
  · refine ⟨String.ofList (text.toList.rtakeWhile isBlank), ?_, ?_⟩
    · rw [trimEnd, dropBlankEnd_eq, ← String.ofList_append, List.rdropWhile_append_rtakeWhile,
        String.ofList_toList]
    · rw [isBlankText, String.toList_ofList, List.all_eq_true]
      exact fun c => List.mem_rtakeWhile_imp
  · intro c hc
    rw [trimEnd, String.toList_ofList, dropBlankEnd_eq] at hc
    obtain ⟨hne, rfl⟩ := List.mem_getLast?_eq_getLast hc
    simpa using List.rdropWhile_last_not isBlank text.toList hne

namespace EndTrimmed

variable {text block : String}

/-- Only blanks are lost. -/
theorem visible_eq (h : EndTrimmed text block) : visible block = visible text := by
  obtain ⟨blanks, rfl, hblanks⟩ := h.split
  rw [visible_append, isBlankText_iff.1 hblanks, List.append_nil]

/-- Nothing is left exactly if the text is blank. -/
theorem eq_empty_iff (h : EndTrimmed text block) : block = "" ↔ isBlankText text = true := by
  rw [isBlankText_iff, ← h.visible_eq]
  constructor
  · rintro rfl
    rfl
  · intro hvisible
    cases hlast : block.toList.getLast? with
    | none => rwa [List.getLast?_eq_none_iff, String.toList_eq_nil_iff] at hlast
    | some c =>
      have hc : c ∈ visible block :=
        List.mem_filter.2 ⟨List.mem_of_getLast? hlast, by simp [h.last c hlast]⟩
      rw [hvisible] at hc
      cases hc

end EndTrimmed

end ConsumerCheck.Text
