import ConsumerCheck.Proofs.Report.Github

/-!
# The data of an annotation

The service that reads an annotation replaces three escapes in its data: `%0A` stands for a line feed, `%0D` for
a carriage return and `%25` for a percent sign. The report writes the first of them and leaves carriage returns
out, so what the service shows of a message has none. Where the rest of the message has no escape of its own, the
service shows just that rest.

* `unescape`, `shown` — what the service makes of data;
* `stripped` — a message without its carriage returns;
* `Unescaped` — a text in which no escape stands.

Principal results: `annotation_read_back` — the data is one line that is shown as the message without its
carriage returns; `annotation_not_read_back` — with them, different messages have the same annotation.
-/

namespace ConsumerCheck.Report

/-! ## Escapes -/

/-- What follows a percent sign in an escape. -/
def codes : List (List Char) := [['0', 'A'], ['0', 'D'], ['2', '5']]

/-- Data with what its escapes stand for. -/
def unescape : List Char → List Char
  | '%' :: '0' :: 'A' :: rest => '\n' :: unescape rest
  | '%' :: '0' :: 'D' :: rest => '\r' :: unescape rest
  | '%' :: '2' :: '5' :: rest => '%' :: unescape rest
  | c :: rest => c :: unescape rest
  | [] => []

/-- What the service shows of data. -/
def shown (data : String) : String := String.ofList (unescape data.toList)

/-- A message without its carriage returns. -/
def stripped (message : String) : String := Text.replaceChar '\r' "" message

/-- No escape stands in the text. -/
def Unescaped (text : String) : Prop := ∀ code ∈ codes, ¬ '%' :: code <:+: text.toList

instance : DecidablePred Unescaped := fun _ => inferInstanceAs (Decidable (∀ code ∈ codes, _))

/-- Characters in which line feeds are written as escapes. -/
def feedsEscaped (cs : List Char) : List Char :=
  cs.flatMap fun c => if c = '\n' then ['%', '0', 'A'] else [c]

theorem unescape_cons {c : Char} {rest : List Char} (h : ∀ code ∈ codes, ¬ '%' :: code <+: c :: rest) :
    unescape (c :: rest) = c :: unescape rest := by
  rw [unescape]
  all_goals
    intro rest' hc hrest
    subst hc hrest
    simp [codes] at h

theorem annotationData_eq (message : String) :
    (annotationData message).toList = feedsEscaped (stripped message).toList := by
  simp only [annotationData, stripped, Text.replaceChar, String.toList_ofList, feedsEscaped,
    List.flatMap_assoc]
  refine List.flatMap_congr fun c _ => ?_
  by_cases hfeed : c = '\n'
  · simp [hfeed]
  · by_cases hreturn : c = '\r' <;> simp [hfeed, hreturn]

theorem feedsEscaped_cons {c : Char} (h : c ≠ '\n') (cs : List Char) :
    feedsEscaped (c :: cs) = c :: feedsEscaped cs := by
  rw [feedsEscaped, List.flatMap_cons, if_neg h]
  rfl

/-- What stands in front without a percent sign stood there before. -/
theorem prefix_of_prefix_feedsEscaped {front cs : List Char} (h : '%' ∉ front)
    (hfront : front <+: feedsEscaped cs) : front <+: cs := by
  induction front generalizing cs with
  | nil => exact List.nil_prefix
  | cons x front ih =>
    rw [List.mem_cons, not_or] at h
    cases cs with
    | nil => exact hfront
    | cons c cs =>
      by_cases hfeed : c = '\n'
      · subst hfeed
        exact absurd (List.cons_prefix_cons.1 hfront).1.symm h.1
      · rw [feedsEscaped_cons hfeed, List.cons_prefix_cons] at hfront
        exact List.cons_prefix_cons.2 ⟨hfront.1, ih h.2 hfront.2⟩

theorem unescape_feedsEscaped {cs : List Char} (h : ∀ code ∈ codes, ¬ '%' :: code <:+: cs) :
    unescape (feedsEscaped cs) = cs := by
  induction cs with
  | nil => rfl
  | cons c cs ih =>
    have hrest : unescape (feedsEscaped cs) = cs :=
      ih fun code hcode hwithin => h code hcode (hwithin.trans (List.suffix_cons c cs).isInfix)
    by_cases hfeed : c = '\n'
    · subst hfeed
      have hfeeds : feedsEscaped ('\n' :: cs) = '%' :: '0' :: 'A' :: feedsEscaped cs := rfl
      rw [hfeeds, unescape, hrest]
    · -- an escape that begins here would stand in the text itself
      have hnone : ∀ code ∈ codes, ¬ '%' :: code <+: c :: feedsEscaped cs := by
        intro code hcode hprefix
        obtain ⟨hpercent, hprefix⟩ := List.cons_prefix_cons.1 hprefix
        have hcode' : '%' ∉ code := (by decide : ∀ code ∈ codes, '%' ∉ code) code hcode
        have hfront : '%' :: code <+: c :: cs :=
          List.cons_prefix_cons.2 ⟨hpercent, prefix_of_prefix_feedsEscaped hcode' hprefix⟩
        exact h code hcode hfront.isInfix
      rw [feedsEscaped_cons hfeed, unescape_cons hnone, hrest]

/-! ## Annotations -/

/-- What is shown of a message in which no escape stands but for carriage returns. -/
theorem shown_annotationData {message : String} (h : Unescaped (stripped message)) :
    shown (annotationData message) = stripped message := by
  rw [shown, annotationData_eq, unescape_feedsEscaped h, String.ofList_toList]

/-- **The data of an annotation is one line. If without its carriage returns the message has no escape, the
data is shown as what is left of the message**, so that the data of two such steps is the same only if their
messages are, but for carriage returns. -/
theorem annotation_read_back {step : ReportStep} (hstatus : step.status ≠ .passed) :
    annotation step =
        [(if step.status = .failed then "::error" else "::notice") ++ " title=" ++ step.name ++ "::" ++
          annotationData step.message] ∧
      ('\n' ∉ (annotationData step.message).toList ∧ '\r' ∉ (annotationData step.message).toList) ∧
      (Unescaped (stripped step.message) →
        shown (annotationData step.message) = stripped step.message ∧
        ∀ other : ReportStep, Unescaped (stripped other.message) →
          annotationData other.message = annotationData step.message →
            stripped other.message = stripped step.message) := by
  refine ⟨annotation_eq hstatus, not_mem_annotationData step.message, fun hmessage => ?_⟩
  refine ⟨shown_annotationData hmessage, fun other hother hsame => ?_⟩
  rw [← shown_annotationData hother, hsame, shown_annotationData hmessage]

/-- A percent sign alone is no escape. -/
theorem annotation_read_back_percent :
    (ReportStep.skip "Test" "100%\r\n%d left" .zero).status ≠ .passed ∧
      Unescaped (stripped "100%\r\n%d left") ∧
      annotation (.skip "Test" "100%\r\n%d left" .zero) =
        ["::notice title=Test::" ++ annotationData "100%\r\n%d left"] ∧
      shown (annotationData "100%\r\n%d left") = "100%\n%d left" := by
  have hstatus : (ReportStep.skip "Test" "100%\r\n%d left" .zero).status ≠ .passed := by decide
  have hmessage : Unescaped (stripped "100%\r\n%d left") := by decide +kernel
  obtain ⟨hline, -, hshown⟩ := annotation_read_back hstatus
  refine ⟨hstatus, hmessage, hline, ?_⟩
  rw [show shown (annotationData "100%\r\n%d left") = _ from (hshown hmessage).1]
  decide +kernel

/-- **Messages that differ in a carriage return, or in a line feed and its escape, have the same annotation.** -/
theorem annotation_not_read_back :
    annotation (.skip "Test" "waiting\rready" .zero) = ["::notice title=Test::waitingready"] ∧
      annotation (.skip "Test" "waitingready" .zero) = ["::notice title=Test::waitingready"] ∧
      shown (annotationData "waiting\rready") ≠ "waiting\rready" ∧
      annotation (.skip "Test" "50%0A" .zero) = ["::notice title=Test::50%0A"] ∧
      annotation (.skip "Test" "50\n" .zero) = ["::notice title=Test::50%0A"] ∧
      shown (annotationData "50%0A") ≠ "50%0A" := by
  decide +kernel

end ConsumerCheck.Report
