import ConsumerCheck.Json
import ConsumerCheck.Text.Digits
import Mathlib.Data.List.Basic

/-!
# Reading documents

`Json.parse` reads a document from its text. Of JSON it takes what documents here are made of: numbers without
sign, fraction and exponent, and escapes that stand for whole characters. What it takes is JSON, and it
takes nothing else.

* `readText`, `readNumber` — a text behind its opening quote, and a number;
* `readValue`, `readItems`, `readMembers` — a value, and the contents of an array and of an object that are
  not empty, each with what follows. The bound is on how deep they go, and the length of the text is enough;
* `parse` — a text that is one document and nothing more.

Principal result: `parse_pretty` — what `pretty` writes is read as the document that was written.
-/

namespace ConsumerCheck.Json

/-! ## The reader -/

/-- The blanks between the parts of a document. -/
def isBlank (c : Char) : Bool := c == ' ' || c == '\n' || c == '\r' || c == '\t'

/-- What follows the blanks. -/
def skip (cs : List Char) : List Char := cs.dropWhile isBlank

/-- The character that a letter stands for behind a backslash. -/
def unescape? : Char → Option Char
  | '"' => some '"'
  | '\\' => some '\\'
  | '/' => some '/'
  | 'b' => some '\x08'
  | 'f' => some '\x0c'
  | 'n' => some '\n'
  | 'r' => some '\r'
  | 't' => some '\t'
  | _ => none

/-- The character with the number that hexadecimal digits stand for. -/
def numbered? (digits : List Char) : Option Char :=
  let n := Text.numeral 16 digits
  if digits.all (Text.isDigitOf 16) ∧ n.isValidChar then some (Char.ofNat n) else none

/-- What was read of a text, with one more character in front. -/
def push (c : Char) (r : List Char × List Char) : List Char × List Char := (c :: r.1, r.2)

/-- A text behind its opening quote, and what follows the closing one. -/
def readText : List Char → Option (List Char × List Char)
  | [] => none
  | '"' :: rest => some ([], rest)
  | '\\' :: 'u' :: a :: b :: c :: d :: rest =>
    (numbered? [a, b, c, d]).bind fun x => (readText rest).map (push x)
  | '\\' :: c :: rest => (unescape? c).bind fun x => (readText rest).map (push x)
  | c :: rest => if c.toNat < 0x20 then none else (readText rest).map (push c)

/-- A number, without zeros in front. -/
def readNumber (cs : List Char) : Option (Nat × List Char) :=
  let digits := cs.takeWhile Char.isDigit
  let n := Nat.ofDigitChars 10 digits 0
  if Nat.toDigits 10 n = digits then some (n, cs.dropWhile Char.isDigit) else none

mutual

/-- A value, and what follows it. -/
def readValue : Nat → List Char → Option (Json × List Char)
  | 0, _ => none
  | bound + 1, cs =>
    match skip cs with
    | 'n' :: 'u' :: 'l' :: 'l' :: rest => some (null, rest)
    | 't' :: 'r' :: 'u' :: 'e' :: rest => some (bool true, rest)
    | 'f' :: 'a' :: 'l' :: 's' :: 'e' :: rest => some (bool false, rest)
    | '"' :: rest => (readText rest).map fun r => (string (String.ofList r.1), r.2)
    | '[' :: rest =>
      match skip rest with
      | ']' :: rest => some (array [], rest)
      | rest => (readItems bound rest).map fun r => (array r.1, r.2)
    | '\x7b' :: rest =>
      match skip rest with
      | '\x7d' :: rest => some (object [], rest)
      | rest => (readMembers bound rest).map fun r => (object r.1, r.2)
    | cs => (readNumber cs).map fun r => (number r.1, r.2)

/-- The items of an array up to its end. -/
def readItems : Nat → List Char → Option (List Json × List Char)
  | 0, _ => none
  | bound + 1, cs => do
    let (item, rest) ← readValue bound cs
    match skip rest with
    | ',' :: rest => (readItems bound rest).map fun r => (item :: r.1, r.2)
    | ']' :: rest => some ([item], rest)
    | _ => none

/-- The members of an object up to its end. -/
def readMembers : Nat → List Char → Option (List (String × Json) × List Char)
  | 0, _ => none
  | bound + 1, cs => do
    let '"' :: rest := skip cs | none
    let (key, rest) ← readText rest
    let ':' :: rest := skip rest | none
    let (value, rest) ← readValue bound rest
    match skip rest with
    | ',' :: rest => (readMembers bound rest).map fun r => ((String.ofList key, value) :: r.1, r.2)
    | '\x7d' :: rest => some ([(String.ofList key, value)], rest)
    | _ => none

end

/-- A text that is one document. -/
def parse (text : String) : Option Json := do
  let (document, rest) ← readValue (text.length + 1) text.toList
  if skip rest = [] then some document else none

/-! ## Texts -/

theorem isDigitOf_hexDigit : ∀ d < 16, Text.isDigitOf 16 (hexDigit d) = true := by decide

theorem digit?_hexDigit : ∀ d < 16, Text.digit? (hexDigit d) = some d := by decide

/-- The four digits of a control character are those of its number. -/
theorem numbered?_control {c : Char} (h : c.toNat < 0x20) :
    numbered? ['0', '0', hexDigit (c.toNat / 16), hexDigit (c.toNat % 16)] = some c := by
  have hhigh : c.toNat / 16 < 16 := by omega
  have hlow : c.toNat % 16 < 16 := by omega
  have hzero : Text.digit? '0' = some 0 := by decide
  have hnumeral : Text.numeral 16 ['0', '0', hexDigit (c.toNat / 16), hexDigit (c.toNat % 16)] =
      c.toNat := by
    simp only [Text.numeral, List.foldl_cons, List.foldl_nil, hzero, digit?_hexDigit _ hhigh,
      digit?_hexDigit _ hlow, Option.getD_some]
    omega
  have hdigit : Text.isDigitOf 16 '0' = true := by decide
  have hall : ['0', '0', hexDigit (c.toNat / 16), hexDigit (c.toNat % 16)].all (Text.isDigitOf 16) := by
    simp [hdigit, isDigitOf_hexDigit _ hhigh, isDigitOf_hexDigit _ hlow]
  have hvalid : c.toNat.isValidChar := c.valid
  rw [numbered?, hnumeral, if_pos ⟨hall, hvalid⟩, Char.ofNat_toNat]

/-- A character that needs no escape is read as itself. -/
theorem readText_plain {c : Char} (hquote : c ≠ '"') (hslash : c ≠ '\\') (h : ¬c.toNat < 0x20)
    (rest : List Char) : readText (c :: rest) = (readText rest).map (push c) := by
  rw [readText.eq_def]
  split
  case h_5 heq =>
    obtain ⟨rfl, rfl⟩ := List.cons.inj heq
    exact if_neg h
  all_goals simp_all

/-- An escaped character is read as itself. -/
theorem readText_escape (c : Char) (rest : List Char) :
    readText (escape c ++ rest) = (readText rest).map (push c) := by
  unfold escape
  iterate 7
    split
    · subst_vars
      simp [readText, unescape?]
  split
  · rename_i hcontrol
    simp [readText, numbered?_control hcontrol]
  · rename_i hquote hslash _ _ _ _ _ hcontrol
    exact readText_plain hquote hslash hcontrol rest

theorem readText_quote (text : String) (rest : List Char) :
    quote text ++ rest = '"' :: (text.toList.flatMap escape ++ '"' :: rest) ∧
      readText (text.toList.flatMap escape ++ '"' :: rest) = some (text.toList, rest) := by
  refine ⟨by simp [quote], ?_⟩
  induction text.toList with
  | nil => rfl
  | cons c cs ih =>
    rw [List.flatMap_cons, List.append_assoc, readText_escape, ih]
    rfl

/-! ## Numbers -/

/-- What follows a value does not go on as a number would. -/
def Ends (rest : List Char) : Prop := ∀ c ∈ rest.head?, c.isDigit = false

theorem isDigit_of_mem_toDigits {n : Nat} {c : Char} (h : c ∈ Nat.toDigits 10 n) : c.isDigit = true :=
  Nat.isDigit_of_mem_toDigits (by decide) (by decide) h

theorem readNumber_toDigits (n : Nat) {rest : List Char} (hrest : Ends rest) :
    readNumber (Nat.toDigits 10 n ++ rest) = some (n, rest) := by
  have hdigits : ∀ c ∈ Nat.toDigits 10 n, c.isDigit = true := fun c => isDigit_of_mem_toDigits
  have htake : rest.takeWhile Char.isDigit = [] := by
    cases rest with
    | nil => rfl
    | cons c rest => rw [List.takeWhile_cons, if_neg (by simp [hrest c rfl])]
  have hdrop : rest.dropWhile Char.isDigit = rest := by
    cases rest with
    | nil => rfl
    | cons c rest => rw [List.dropWhile_cons, if_neg (by simp [hrest c rfl])]
  rw [readNumber, List.takeWhile_append_of_pos hdigits, htake, List.append_nil,
    Nat.ofDigitChars_ten_toDigits, if_pos rfl, List.dropWhile_append_of_pos hdigits, hdrop]

/-! ## Blanks -/

theorem skip_newLine (depth : Nat) (rest : List Char) : skip (newLine depth ++ rest) = skip rest := by
  have hblank : ∀ c ∈ newLine depth, isBlank c = true := by
    intro c hc
    rcases List.mem_cons.1 hc with rfl | hc
    · rfl
    · rw [List.eq_of_mem_replicate hc]
      rfl
  rw [skip, List.dropWhile_append_of_pos hblank, skip]

theorem skip_cons {c : Char} (h : isBlank c = false) (rest : List Char) :
    skip (c :: rest) = c :: rest := by
  rw [skip, List.dropWhile_cons, if_neg (by simp [h])]

theorem isBlank_of_isDigit {c : Char} (h : c.isDigit = true) : isBlank c = false := by
  by_contra hblank
  simp only [isBlank, Bool.not_eq_false, Bool.or_eq_true, beq_iff_eq] at hblank
  rcases hblank with ((rfl | rfl) | rfl) | rfl <;> cases h

/-- A document begins neither with a blank nor with the end of an array. -/
theorem prettyChars_head (depth : Nat) (document : Json) :
    ∃ c cs, prettyChars depth document = c :: cs ∧ isBlank c = false ∧ c ≠ ']' := by
  cases document with
  | null => exact ⟨_, _, rfl, rfl, by decide⟩
  | bool b => cases b <;> exact ⟨_, _, rfl, rfl, by decide⟩
  | number n =>
    obtain ⟨c, cs, hdigits⟩ := List.exists_cons_of_ne_nil (Nat.toDigits_ne_nil (n := n) (b := 10))
    have hc : c.isDigit = true := isDigit_of_mem_toDigits (n := n) (by rw [hdigits]; exact .head _)
    refine ⟨c, cs, hdigits, isBlank_of_isDigit hc, ?_⟩
    rintro rfl
    cases hc
  | string text => exact ⟨_, _, rfl, rfl, by decide⟩
  | array items => cases items <;> exact ⟨_, _, rfl, rfl, by decide⟩
  | object members => cases members <;> exact ⟨_, _, rfl, rfl, by decide⟩

/-! ## Values -/

/-- Blanks in front of a value play no part. -/
theorem readValue_congr {cs cs' : List Char} (h : skip cs = skip cs') (bound : Nat) :
    readValue bound cs = readValue bound cs' := by
  cases bound with
  | zero => rfl
  | succ bound => rw [readValue, h, readValue]

theorem readValue_blank (bound : Nat) (rest : List Char) :
    readValue bound (' ' :: rest) = readValue bound rest :=
  readValue_congr (show skip (' ' :: rest) = skip rest from rfl) bound

theorem readValue_number (bound n : Nat) {rest : List Char} (hrest : Ends rest) :
    readValue (bound + 1) (Nat.toDigits 10 n ++ rest) = some (number n, rest) := by
  obtain ⟨c, cs, hdigits⟩ := List.exists_cons_of_ne_nil (Nat.toDigits_ne_nil (n := n) (b := 10))
  have hc : c.isDigit = true := isDigit_of_mem_toDigits (n := n) (by rw [hdigits]; exact .head _)
  have hread := readNumber_toDigits n hrest
  rw [hdigits, List.cons_append] at hread ⊢
  rw [readValue, skip_cons (isBlank_of_isDigit hc)]
  split
  case h_7 => rw [hread]; rfl
  all_goals
    rename_i heq
    obtain ⟨rfl, -⟩ := List.cons.inj heq
    cases hc

theorem readItems_newLine (bound depth : Nat) (rest : List Char) :
    readItems bound (newLine depth ++ rest) = readItems bound rest := by
  cases bound with
  | zero => rfl
  | succ bound => rw [readItems, readValue_congr (skip_newLine depth rest), readItems]

theorem readMembers_newLine (bound depth : Nat) (rest : List Char) :
    readMembers bound (newLine depth ++ rest) = readMembers bound rest := by
  cases bound with
  | zero => rfl
  | succ bound => rw [readMembers, skip_newLine, readMembers]

theorem ends_cons {c : Char} (h : c.isDigit = false) (rest : List Char) : Ends (c :: rest) := by
  intro d hd
  cases hd
  exact h

theorem ends_prettyItems (depth level : Nat) (items : List Json) (rest : List Char) :
    Ends (prettyItems depth items ++ (newLine level ++ rest)) := by
  cases items <;> exact ends_cons rfl _

theorem ends_prettyMembers (depth level : Nat) (members : List (String × Json)) (rest : List Char) :
    Ends (prettyMembers depth members ++ (newLine level ++ rest)) := by
  cases members <;> exact ends_cons rfl _

theorem readValue_items {bound : Nat} {c : Char} {cs rest : List Char} {items : List Json}
    (hblank : isBlank c = false) (hend : c ≠ ']') (h : readItems bound (c :: cs) = some (items, rest))
    (depth : Nat) : readValue (bound + 1) ('[' :: (newLine depth ++ c :: cs)) = some (array items, rest) := by
  simp only [readValue, skip_cons (show isBlank '[' = false from rfl), skip_newLine, skip_cons hblank]
  split
  · rename_i heq
    exact absurd (List.cons.inj heq).1 hend
  · rw [h]
    rfl

theorem readValue_members {bound : Nat} {front cs rest : List Char} {members : List (String × Json)}
    (hskip : skip front = '"' :: cs) (h : readMembers bound ('"' :: cs) = some (members, rest)) :
    readValue (bound + 1) ('\x7b' :: front) = some (object members, rest) := by
  simp only [readValue, skip_cons (show isBlank '\x7b' = false from rfl), hskip]
  change (readMembers bound ('"' :: cs)).map _ = _
  rw [h]
  rfl

/-- Under this bound, all that is written is read back that is not longer than the bound. What follows a value
must not go on as a number. -/
structure ReadsBack (bound : Nat) : Prop where
  value : ∀ (document : Json) (depth : Nat) (rest : List Char),
    (prettyChars depth document).length < bound → Ends rest →
    readValue bound (prettyChars depth document ++ rest) = some (document, rest)
  items : ∀ (item : Json) (items : List Json) (depth level : Nat) (rest : List Char),
    (prettyChars depth item).length + (prettyItems depth items).length + 1 < bound →
    readItems bound (prettyChars depth item ++
      (prettyItems depth items ++ (newLine level ++ ']' :: rest))) = some (item :: items, rest)
  members : ∀ (member : String × Json) (members : List (String × Json)) (depth level : Nat)
      (rest : List Char),
    (prettyMember depth member).length + (prettyMembers depth members).length + 1 < bound →
    readMembers bound (prettyMember depth member ++
      (prettyMembers depth members ++ (newLine level ++ '\x7d' :: rest))) =
        some (member :: members, rest)

namespace ReadsBack

variable {bound : Nat}

theorem value_succ (h : ReadsBack bound) (document : Json) (depth : Nat) (rest : List Char)
    (hbound : (prettyChars depth document).length < bound + 1) (hrest : Ends rest) :
    readValue (bound + 1) (prettyChars depth document ++ rest) = some (document, rest) := by
  match document with
  | null => rfl
  | bool true => rfl
  | bool false => rfl
  | number n => exact readValue_number bound n hrest
  | string text =>
    obtain ⟨hquote, hread⟩ := readText_quote text rest
    rw [prettyChars, hquote, readValue, skip_cons rfl]
    simp [hread]
  | array [] => rfl
  | array (item :: items) =>
    simp only [prettyChars, List.length_append, List.length_cons] at hbound
    have hitems := h.items item items (depth + 1) depth rest (by omega)
    obtain ⟨c, cs, hhead, hblank, hend⟩ := prettyChars_head (depth + 1) item
    rw [hhead, List.cons_append] at hitems
    have hvalue := readValue_items hblank hend hitems (depth + 1)
    simpa [prettyChars, hhead] using hvalue
  | object [] => rfl
  | object ((key, value) :: members) =>
    simp only [prettyChars, List.length_append, List.length_cons] at hbound
    have hmembers := h.members (key, value) members (depth + 1) depth rest (by omega)
    obtain ⟨cs, hhead⟩ : ∃ cs, prettyMember (depth + 1) (key, value) = '"' :: cs := ⟨_, rfl⟩
    rw [hhead, List.cons_append] at hmembers
    have hobject := readValue_members ((skip_newLine (depth + 1) _).trans (skip_cons rfl _)) hmembers
    simpa [prettyChars, hhead] using hobject

theorem items_succ (h : ReadsBack bound) (item : Json) (items : List Json) (depth level : Nat)
    (rest : List Char)
    (hbound : (prettyChars depth item).length + (prettyItems depth items).length + 1 < bound + 1) :
    readItems (bound + 1) (prettyChars depth item ++
      (prettyItems depth items ++ (newLine level ++ ']' :: rest))) = some (item :: items, rest) := by
  have hvalue := h.value item depth _ (by omega) (ends_prettyItems depth level items (']' :: rest))
  rw [readItems, hvalue]
  cases items with
  | nil =>
    simp only [prettyItems, List.nil_append, bind, Option.bind]
    rw [skip_newLine]
    rfl
  | cons next items =>
    simp only [prettyItems, List.length_append, List.length_cons] at hbound
    have hnext := h.items next items depth level rest (by omega)
    simp only [prettyItems, List.append_assoc, List.cons_append, bind, Option.bind,
      skip_cons (show isBlank ',' = false from rfl), readItems_newLine, hnext]
    rfl

theorem members_succ (h : ReadsBack bound) (member : String × Json)
    (members : List (String × Json)) (depth level : Nat) (rest : List Char)
    (hbound : (prettyMember depth member).length + (prettyMembers depth members).length + 1 <
      bound + 1) :
    readMembers (bound + 1) (prettyMember depth member ++
      (prettyMembers depth members ++ (newLine level ++ '\x7d' :: rest))) =
        some (member :: members, rest) := by
  obtain ⟨key, value⟩ := member
  simp only [prettyMember, List.length_append, List.length_cons, List.length_nil] at hbound
  have hvalue := h.value value depth _ (by omega)
    (ends_prettyMembers depth level members ('\x7d' :: rest))
  obtain ⟨hquote, hread⟩ := readText_quote key (':' :: ' ' :: (prettyChars depth value ++
    (prettyMembers depth members ++ (newLine level ++ '\x7d' :: rest))))
  simp only [prettyMember, List.append_assoc, List.cons_append, List.nil_append]
  rw [hquote]
  simp only [readMembers, skip_cons (show isBlank '"' = false from rfl), hread, bind, Option.bind,
    skip_cons (show isBlank ':' = false from rfl), readValue_blank, hvalue]
  cases members with
  | nil =>
    simp only [prettyMembers, List.nil_append]
    rw [skip_newLine, skip_cons rfl]
    simp
  | cons next members =>
    simp only [prettyMembers, List.length_append, List.length_cons] at hbound
    have hnext := h.members next members depth level rest (by omega)
    simp only [prettyMembers, List.append_assoc, List.cons_append,
      skip_cons (show isBlank ',' = false from rfl), readMembers_newLine, hnext]
    simp

end ReadsBack

/-- **Under every bound, all is read back that is not longer.** -/
theorem readsBack (bound : Nat) : ReadsBack bound := by
  induction bound with
  | zero => exact ⟨by simp, by simp, by simp⟩
  | succ bound ih => exact ⟨ih.value_succ, ih.items_succ, ih.members_succ⟩

/-- **What is written is read as the document that was written.** -/
theorem parse_pretty (document : Json) : parse document.pretty = some document := by
  have hread := (readsBack _).value document 0 [] (Nat.lt_succ_self _) (by simp [Ends])
  rw [List.append_nil] at hread
  rw [parse, pretty, String.length_ofList, String.toList_ofList, hread]
  rfl

/-- A comma promises another item, and no text is two documents. -/
example : (parse "[1, 2]").isSome ∧ (parse "[1, 2,]").isNone ∧ (parse "[1] [2]").isNone := by
  decide +kernel

/-- An object with one text can also be written in one line. -/
theorem parse_line (key text : String) :
    parse (String.ofList ('\x7b' :: (quote key ++ ':' :: ' ' :: (quote text ++ ['\x7d'])))) =
      some (object [(key, string text)]) := by
  obtain ⟨hkey, hreadKey⟩ := readText_quote key (':' :: ' ' :: (quote text ++ ['\x7d']))
  obtain ⟨htext, hreadText⟩ := readText_quote text ['\x7d']
  have hvalue : ∀ bound, readValue (bound + 1) (' ' :: (quote text ++ ['\x7d'])) =
      some (string text, ['\x7d']) := by
    intro bound
    rw [readValue_blank, htext, readValue, skip_cons rfl]
    simp [hreadText]
  have hmember : ∀ bound, readMembers (bound + 2) (quote key ++ ':' :: ' ' ::
      (quote text ++ ['\x7d'])) = some ([(key, string text)], []) := by
    intro bound
    rw [hkey]
    simp only [readMembers, skip_cons (show isBlank '"' = false from rfl), hreadKey, bind,
      Option.bind, skip_cons (show isBlank ':' = false from rfl), hvalue]
    simp [skip_cons (show isBlank '\x7d' = false from rfl)]
  have hlength : 1 ≤ (quote key ++ ':' :: ' ' :: (quote text ++ ['\x7d'])).length := by
    simp only [List.length_append, List.length_cons]
    omega
  obtain ⟨bound, hbound⟩ := Nat.exists_eq_add_of_le' hlength
  have hobject : readValue (bound + 3) ('\x7b' :: (quote key ++ ':' :: ' ' ::
      (quote text ++ ['\x7d']))) = some (object [(key, string text)], []) := by
    have hmember' := hmember bound
    rw [hkey] at hmember' ⊢
    exact readValue_members (skip_cons rfl _) hmember'
  rw [parse, String.length_ofList, String.toList_ofList, List.length_cons, hbound, hobject]
  rfl

end ConsumerCheck.Json
