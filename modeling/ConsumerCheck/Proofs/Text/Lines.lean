import ConsumerCheck.Report.Human

/-!
# Lines of texts that are put together

What ends in a line feed has its lines, whatever follows. So a text that is written line by line has the lines
of what was written, where one written line may hold line feeds of its own.

* `endedLines` — the lines of a text to which a line feed was added;
* `startingWith` — the lines that start with a mark, and `marked`, those among the lines of a text to which a
  line feed was added.

Principal results: `lines_unlines` — the lines of what is written line by line; `endedLines_of_not_mem` — a
text without a line feed is one line; `not_mem_of_mem_lines` — no line has a line feed in it.
-/

namespace ConsumerCheck.Text

/-! ## Characters of texts -/

/-- A character that is replaced is left only where the replacement has it. -/
theorem not_mem_replaceChar {c : Char} {replacement : String} (h : c ∉ replacement.toList)
    (text : String) : c ∉ (replaceChar c replacement text).toList := by
  intro hmem
  rw [replaceChar, String.toList_ofList] at hmem
  obtain ⟨x, -, hx⟩ := List.mem_flatMap.1 hmem
  split at hx
  · exact h hx
  · rename_i hne
    exact hne (List.mem_singleton.1 hx).symm

theorem mem_of_mem_replaceChar {c d : Char} {replacement text : String}
    (h : d ∈ (replaceChar c replacement text).toList) : d ∈ replacement.toList ∨ d ∈ text.toList := by
  rw [replaceChar, String.toList_ofList] at h
  obtain ⟨x, hx, hd⟩ := List.mem_flatMap.1 h
  split at hd
  · exact .inl hd
  · obtain rfl := List.mem_singleton.1 hd
    exact .inr hx

/-- A text stays as it is exactly if nothing in it is replaced. -/
theorem replaceChar_eq_self_iff {c : Char} {replacement text : String} (h : c ∉ replacement.toList) :
    replaceChar c replacement text = text ↔ c ∉ text.toList := by
  constructor
  · intro heq
    rw [← heq]
    exact not_mem_replaceChar h text
  · intro hc
    have hkept : ∀ cs : List Char, c ∉ cs →
        (cs.flatMap fun x => if x = c then replacement.toList else [x]) = cs := by
      intro cs hcs
      induction cs with
      | nil => rfl
      | cons x xs ih =>
        rw [List.mem_cons, not_or] at hcs
        rw [List.flatMap_cons, if_neg (Ne.symm hcs.1), ih hcs.2, List.singleton_append]
    rw [replaceChar, hkept _ hc, String.ofList_toList]

/-- A number is written with digits. -/
theorem not_mem_toString {c : Char} (h : c.isDigit = false) (n : Nat) : c ∉ (toString n).toList := by
  intro hmem
  have hdigits : (toString n).toList = Nat.toDigits 10 n := by simp [toString, Nat.repr]
  rw [hdigits] at hmem
  rw [Nat.isDigit_of_mem_toDigits (by decide) (by decide) hmem] at h
  cases h

/-! ## Pieces -/

theorem splitChars_eq (p : Char → Bool) (cs : List Char) : splitChars p cs = cs.splitOnP p := by
  induction cs with
  | nil => rfl
  | cons c cs ih =>
    rw [splitChars, List.splitOnP_cons_eq_if_modifyHead, ih]
    cases hs : cs.splitOnP p with
    | nil => exact absurd hs (List.splitOnP_ne_nil p cs)
    | cons piece pieces => rfl

/-- All pieces but the last end in a line feed. -/
theorem linesOfPieces_append (pieces : List (List Char)) {rest : List (List Char)} (h : rest ≠ []) :
    linesOfPieces (pieces ++ rest) = pieces.map dropCarriageReturn ++ linesOfPieces rest := by
  induction pieces with
  | nil => rfl
  | cons piece pieces ih =>
    rw [List.cons_append, List.map_cons, List.cons_append, ← ih]
    cases hrest : pieces ++ rest with
    | nil => exact absurd (List.append_eq_nil_iff.1 hrest).2 h
    | cons next others => rfl

theorem dropCarriageReturn_of_ne {line : List Char} (h : line.getLast? ≠ some '\r') :
    dropCarriageReturn line = line := if_neg h

theorem dropCarriageReturn_prefix (line : List Char) : dropCarriageReturn line <+: line := by
  unfold dropCarriageReturn
  split
  · exact List.dropLast_prefix line
  · exact List.prefix_refl line

/-! ## Lines -/

/-- The lines of a text to which a line feed was added. -/
def endedLines (text : String) : List String :=
  (splitChars (· == '\n') text.toList).map fun piece => String.ofList (dropCarriageReturn piece)

theorem lines_append (text rest : String) :
    lines (text ++ "\n" ++ rest) = endedLines text ++ lines rest := by
  have hchars : (text ++ "\n" ++ rest).toList = text.toList ++ '\n' :: rest.toList := by simp
  simp only [lines, endedLines, hchars, splitChars_eq]
  rw [List.splitOnP_append_cons _ _ (by decide),
    linesOfPieces_append _ (List.splitOnP_ne_nil _ _), List.map_append, List.map_map]
  rfl

/-- **What is written line by line has the lines of what was written.** -/
theorem lines_unlines (ls : List String) : lines (Report.unlines ls) = ls.flatMap endedLines := by
  induction ls with
  | nil => rfl
  | cons l ls ih =>
    have hcons : Report.unlines (l :: ls) = l ++ "\n" ++ Report.unlines ls := by
      simp [Report.unlines, String.join_cons]
    rw [hcons, lines_append, ih, List.flatMap_cons]

/-- A text without a line feed is one line. -/
theorem endedLines_of_not_mem {text : String} (h : '\n' ∉ text.toList) :
    endedLines text = [String.ofList (dropCarriageReturn text.toList)] := by
  have hone : text.toList.splitOnP (· == '\n') = [text.toList] :=
    List.splitOnP_eq_singleton fun c hc => beq_eq_false_iff_ne.2 fun heq => h (heq ▸ hc)
  rw [endedLines, splitChars_eq, hone]
  rfl

theorem endedLines_eq_self {text : String} (h : '\n' ∉ text.toList)
    (hlast : text.toList.getLast? ≠ some '\r') : endedLines text = [text] := by
  rw [endedLines_of_not_mem h, dropCarriageReturn_of_ne hlast, String.ofList_toList]

/-- No piece has what the pieces are separated by. -/
theorem not_mem_of_mem_splitChars {p : Char → Bool} {c : Char} (hc : p c = true) (cs : List Char) :
    ∀ piece ∈ splitChars p cs, c ∉ piece := by
  rw [splitChars_eq]
  induction cs with
  | nil => simp
  | cons x cs ih =>
    rw [List.splitOnP_cons_eq_if_modifyHead]
    split
    · simpa using ih
    · rename_i hx
      have hne : c ≠ x := fun heq => hx (heq ▸ hc)
      cases hs : cs.splitOnP p with
      | nil => exact absurd hs (List.splitOnP_ne_nil p cs)
      | cons piece pieces =>
        rw [hs] at ih
        simpa [hne] using ih

theorem mem_linesOfPieces {pieces : List (List Char)} {line : List Char}
    (h : line ∈ linesOfPieces pieces) : ∃ piece ∈ pieces, line <+: piece := by
  induction pieces with
  | nil => cases h
  | cons piece pieces ih =>
    cases pieces with
    | nil =>
      rw [linesOfPieces] at h
      split at h
      · cases h
      · exact ⟨line, h, List.prefix_refl line⟩
    | cons next pieces =>
      rw [linesOfPieces, List.mem_cons] at h
      · rcases h with rfl | h
        · exact ⟨piece, List.mem_cons_self, dropCarriageReturn_prefix piece⟩
        · obtain ⟨there, hthere, hfront⟩ := ih h
          exact ⟨there, List.mem_cons_of_mem _ hthere, hfront⟩
      · simp

/-- No line has a line feed in it. -/
theorem not_mem_of_mem_lines {text line : String} (h : line ∈ lines text) : '\n' ∉ line.toList := by
  obtain ⟨cs, hcs, rfl⟩ := List.mem_map.1 h
  obtain ⟨piece, hpiece, hfront⟩ := mem_linesOfPieces hcs
  rw [String.toList_ofList]
  intro hmem
  exact not_mem_of_mem_splitChars (by decide) _ piece hpiece (hfront.subset hmem)

/-! ## Lines that start with a mark -/

/-- Whether a line starts with a mark. -/
def starts (mark line : String) : Bool := mark.toList.isPrefixOf line.toList

/-- The lines that start with a mark. -/
def startingWith (mark : String) (ls : List String) : List String := ls.filter (starts mark)

/-- The lines that start with a mark, of a text to which a line feed was added. -/
def marked (mark text : String) : List String := startingWith mark (endedLines text)

/-- One line that does not start with the mark. -/
def Unmarked (mark line : String) : Prop := '\n' ∉ line.toList ∧ ¬mark.toList <+: line.toList

theorem startingWith_lines_unlines (mark : String) (ls : List String) :
    startingWith mark (lines (Report.unlines ls)) = ls.flatMap (marked mark) := by
  rw [startingWith, lines_unlines, List.filter_flatMap]
  rfl

theorem Unmarked.marked {mark line : String} (h : Unmarked mark line) : marked mark line = [] := by
  have hprefix := dropCarriageReturn_prefix line.toList
  rw [Text.marked, endedLines_of_not_mem h.1, startingWith, List.filter_cons_of_neg, List.filter_nil]
  intro hmark
  rw [starts, String.toList_ofList, List.isPrefixOf_iff_prefix] at hmark
  exact h.2 (hmark.trans hprefix)

theorem flatMap_marked_of_unmarked {mark : String} {ls : List String}
    (h : ∀ line ∈ ls, Unmarked mark line) : ls.flatMap (marked mark) = [] :=
  List.flatMap_eq_nil_iff.2 fun line hline => (h line hline).marked

theorem marked_of_prefix {mark line : String} (h : '\n' ∉ line.toList)
    (hlast : line.toList.getLast? ≠ some '\r') (hmark : mark.toList <+: line.toList) :
    marked mark line = [line] := by
  have hfilter : starts mark line = true := List.isPrefixOf_iff_prefix.2 hmark
  rw [marked, endedLines_eq_self h hlast, startingWith, List.filter_cons_of_pos hfilter,
    List.filter_nil]

end ConsumerCheck.Text
