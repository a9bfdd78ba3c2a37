import ConsumerCheck.Command
import ConsumerCheck.Proofs.Text.Blank

/-!
# What a program wrote, in one text

A message shows what a program wrote to its two streams as one text. The streams stand in it one after the
other, without the blanks at their ends, and on different lines if there is something on both. A message so
hides nothing but blanks, whatever octets were written.

* `Output.between` — what stands between the two streams.

Principal results: `combine_eq` — the text, whether the streams are blank or not; `combine_keeps_streams` — what
of the streams is in it.
-/

namespace ConsumerCheck.Output

open Text

/-- What stands between two streams: a line feed, if there is something on both sides. -/
def between (out err : String) : String :=
  if isBlankText out = true ∨ isBlankText err = true then "" else "\n"

theorem visible_between (out err : String) : visible (between out err) = [] := by
  unfold between
  split <;> decide

/-- A stream that is blank leaves nothing, so all cases have one form. -/
theorem combine_eq (stdout stderr : Bytes) :
    let out := Utf8.decodeLossy stdout
    let err := Utf8.decodeLossy stderr
    combine stdout stderr = trimEnd out ++ between out err ++ trimEnd err := by
  unfold combine between
  generalize Utf8.decodeLossy stdout = out
  generalize Utf8.decodeLossy stderr = err
  have hout : isBlankText out = true → trimEnd out = "" := (endTrimmed_trimEnd out).eq_empty_iff.2
  have herr : isBlankText err = true → trimEnd err = "" := (endTrimmed_trimEnd err).eq_empty_iff.2
  cases hblank : isBlankText out <;> cases hblank' : isBlankText err
  case false.false => simp [hblank, hblank']
  case false.true => simp [hblank, hblank', herr]
  case true.false => simp [hblank, hblank', hout]
  case true.true => simp [hblank, hblank', hout, herr]

/-- **Nothing but blanks is lost of what a program wrote.** The characters other than blanks are those of both
streams, the first stream in front; each stream stands in the text in one piece, but for the blanks at its end;
the text does not end in a blank, and it is empty exactly if both streams are blank. -/
theorem combine_keeps_streams (stdout stderr : Bytes) :
    let out := Utf8.decodeLossy stdout
    let err := Utf8.decodeLossy stderr
    let text := combine stdout stderr
    visible text = visible out ++ visible err ∧
    (∃ outBlock errBlock, EndTrimmed out outBlock ∧ EndTrimmed err errBlock ∧
      text = outBlock ++ between out err ++ errBlock) ∧
    (∀ c ∈ text.toList.getLast?, isBlank c = false) ∧
    (text = "" ↔ isBlankText out = true ∧ isBlankText err = true) := by
  intro out err text
  have hout := endTrimmed_trimEnd out
  have herr := endTrimmed_trimEnd err
  have htext : text = trimEnd out ++ between out err ++ trimEnd err := combine_eq stdout stderr
  have hvisible : visible text = visible out ++ visible err := by
    rw [htext, visible_append, visible_append, visible_between, List.append_nil, hout.visible_eq,
      herr.visible_eq]
  have hlast : ∀ c ∈ text.toList.getLast?, isBlank c = false := by
    cases hblank : isBlankText err with
    | true =>
      -- nothing follows the first stream
      have hfirst : text = trimEnd out := by
        rw [htext, between, if_pos (.inr hblank), herr.eq_empty_iff.2 hblank, String.append_empty,
          String.append_empty]
      rw [hfirst]
      exact hout.last
    | false =>
      have hne : (trimEnd err).toList ≠ [] := by
        rw [ne_eq, String.toList_eq_nil_iff, herr.eq_empty_iff, hblank]
        decide
      rw [htext, String.toList_append, List.getLast?_append_of_ne_nil _ hne]
      exact herr.last
  have htrimmed : EndTrimmed text text := ⟨⟨"", String.append_empty.symm, rfl⟩, hlast⟩
  refine ⟨hvisible, ⟨_, _, hout, herr, htext⟩, hlast, ?_⟩
  rw [htrimmed.eq_empty_iff, isBlankText_iff, isBlankText_iff, isBlankText_iff, hvisible,
    List.append_eq_nil_iff]

/-- An indentation, an octet that is no text and an empty first line are kept. -/
example : combine [0x20, 0x61, 0xFF, 0x0A] [0x0A, 0x62, 0x0A] = " a\uFFFD\n\nb" := by decide +kernel

end ConsumerCheck.Output
