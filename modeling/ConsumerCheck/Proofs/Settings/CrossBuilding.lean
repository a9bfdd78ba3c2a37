import ConsumerCheck.Proofs.Exchange
import ConsumerCheck.Proofs.Lookup
import ConsumerCheck.Proofs.Text.LowerCase

/-!
# Cross building and the spelling of names

Names that differ in case, in the blanks around them or as aliases have one normal form, and a build is a cross
build if the normal form of a target's name is not that of the machine that builds. An empty name stands for
that machine. A name of blanks does not, although its normal form is empty too.

* `Settings.differs` — whether a name counts as that of another machine;
* `SmokeTest.Skipped` — the test was not made.

Principal results: `normalizeName_eq_empty_iff` — which names have an empty normal form; `differs_eq_iff` —
when two spellings of one name count alike; `isCrossBuilding_congr` — the same names make the same decision, if
blanks and nothing are not mixed up; `isCrossBuilding_blank` — if they are, they need not.
-/

namespace ConsumerCheck

/-! ## Empty normal forms -/

namespace LowerCase

theorem lower_eq_nil_iff {before cs : List Char} : lower before cs = [] ↔ cs = [] := by
  cases cs with
  | nil => simp [lower]
  | cons c cs =>
    obtain ⟨here, hlower, hne, -⟩ := lower_cons before c cs
    simp [hlower, hne]

end LowerCase

namespace Text

theorem toLower_eq_empty_iff {text : String} : toLower text = "" ↔ text = "" := by
  rw [toLower, String.ofList_eq_empty_iff, LowerCase.lower_eq_nil_iff, String.toList_eq_nil_iff]

end Text

/-- No name in a table of aliases is empty. -/
def NoEmptyNames (aliases : List (String × String)) : Prop := ∀ a ∈ aliases, a.1 ≠ "" ∧ a.2 ≠ ""

theorem noEmptyNames_osAliases : NoEmptyNames osAliases := by simp [NoEmptyNames, osAliases]

theorem noEmptyNames_archAliases : NoEmptyNames archAliases := by
  simp [NoEmptyNames, archAliases]

/-- The names whose normal form is empty are those without a character other than blanks. -/
theorem normalizeName_eq_empty_iff {aliases : List (String × String)} (h : NoEmptyNames aliases)
    {name : String} : normalizeName aliases name = "" ↔ Text.isBlankText name = true := by
  have hlower : Text.toLower (Text.trim name) = "" ↔ Text.isBlankText name = true :=
    Text.toLower_eq_empty_iff.trans Text.trim_eq_empty_iff
  rw [← hlower]
  unfold normalizeName
  generalize Text.toLower (Text.trim name) = lower
  dsimp only
  cases hlookup : aliases.lookup lower with
  | none => rfl
  | some normal =>
    obtain ⟨hlower, hnormal⟩ := h (lower, normal) (mem_of_lookup hlookup)
    exact iff_of_false hnormal hlower

theorem isBlankText_empty : Text.isBlankText "" = true := rfl

namespace Settings

/-! ## One name -/

/-- Whether the name of a target counts as that of another machine than the one that builds. -/
def differs (aliases : List (String × String)) (name machine : String) : Bool :=
  name != "" && normalizeName aliases name != machine

theorem isCrossBuilding_eq (s : Settings) :
    s.isCrossBuilding =
      (differs osAliases s.os s.buildOs || differs archAliases s.arch s.buildArch) := rfl

section OneName

variable {aliases : List (String × String)} {name name' machine : String}

theorem differs_of_blank (h : NoEmptyNames aliases) (hblank : Text.isBlankText name = true) :
    differs aliases name machine = (name != "" && machine != "") := by
  rw [differs, (normalizeName_eq_empty_iff h).2 hblank, bne_comm (a := "")]

theorem differs_of_not_blank (hblank : Text.isBlankText name = false) :
    differs aliases name machine = (normalizeName aliases name != machine) := by
  have hne : name ≠ "" := by
    rintro rfl
    rw [isBlankText_empty] at hblank
    cases hblank
  rw [differs, bne_iff_ne.2 hne, Bool.true_and]

/-- Two spellings of one name count alike, unless the machine that builds has a name, one of them is empty and
the other is not. -/
theorem differs_eq_iff (h : NoEmptyNames aliases)
    (hname : normalizeName aliases name = normalizeName aliases name') :
    differs aliases name machine = differs aliases name' machine ↔
      (Text.isBlankText name = true → machine ≠ "" → (name = "" ↔ name' = "")) := by
  have hsame : Text.isBlankText name = true ↔ Text.isBlankText name' = true := by
    rw [← normalizeName_eq_empty_iff h, ← normalizeName_eq_empty_iff h, hname]
  cases hblank : Text.isBlankText name with
  | true =>
    rw [differs_of_blank h hblank, differs_of_blank h (hsame.1 hblank)]
    by_cases hmachine : machine = ""
    · simp [hmachine]
    · rw [bne_iff_ne.2 hmachine, Bool.and_true, Bool.and_true, Bool.eq_iff_iff, bne_iff_ne,
        bne_iff_ne, not_iff_not]
      exact ⟨fun hempty _ _ => hempty, fun hempty => hempty rfl hmachine⟩
  | false =>
    have hblank' : Text.isBlankText name' = false := by
      rw [← Bool.not_eq_true, ← hsame, hblank]
      simp
    rw [differs_of_not_blank hblank, differs_of_not_blank hblank', hname]
    simp

end OneName

/-! ## The decision -/

/-- A name of blanks is that of another machine, if the machine that builds has a name. -/
theorem isCrossBuilding_of_blank {s : Settings} (hblank : Text.isBlankText s.os = true)
    (hname : s.os ≠ "") (hmachine : s.buildOs ≠ "") : s.isCrossBuilding = true := by
  rw [isCrossBuilding_eq, differs_of_blank noEmptyNames_osAliases hblank, bne_iff_ne.2 hname,
    bne_iff_ne.2 hmachine]
  rfl

end Settings

namespace SmokeTest

/-- The test was not made. -/
def Skipped (result : Except Failure TestResult) : Prop := ∃ reason, result = .ok (.skipped reason)

theorem run_skipped_iff {σ : Type} {c : Context} {options : TestOptions} {settings : Settings}
    {r : Runner σ} {w : World σ} :
    Skipped (run c options settings r w).1 ↔ settings.isCrossBuilding = true := by
  obtain ⟨asked, -, -, hcourse⟩ := run_recording c options settings r w []
  generalize (run c options settings r w).1 = result at hcourse
  cases hcourse with
  | skipped hcross => exact iff_of_true ⟨_, rfl⟩ hcross
  | failed hcross _ => simp [Skipped, hcross]
  | passed hcross _ => simp [Skipped, hcross]

end SmokeTest

/-- **Settings that name the same machines are cross builds alike**, whatever the spelling of the names, if an
empty name is not compared with one of blanks; and the test is skipped for both or for neither. -/
theorem isCrossBuilding_congr {σ τ : Type} {s t : Settings}
    (hos : normalizeOs s.os = normalizeOs t.os) (harch : normalizeArch s.arch = normalizeArch t.arch)
    (hbuildOs : s.buildOs = t.buildOs) (hbuildArch : s.buildArch = t.buildArch)
    (hblankOs : Text.isBlankText s.os = true → s.buildOs ≠ "" → (s.os = "" ↔ t.os = ""))
    (hblankArch : Text.isBlankText s.arch = true → s.buildArch ≠ "" → (s.arch = "" ↔ t.arch = ""))
    (c c' : Context) (o o' : TestOptions) (r : Runner σ) (r' : Runner τ) (w : World σ) (w' : World τ) :
    s.isCrossBuilding = t.isCrossBuilding ∧
      (SmokeTest.Skipped (SmokeTest.run c o s r w).1 ↔
        SmokeTest.Skipped (SmokeTest.run c' o' t r' w').1) := by
  have hcross : s.isCrossBuilding = t.isCrossBuilding := by
    rw [Settings.isCrossBuilding_eq, Settings.isCrossBuilding_eq, ← hbuildOs, ← hbuildArch,
      (Settings.differs_eq_iff noEmptyNames_osAliases hos).2 hblankOs,
      (Settings.differs_eq_iff noEmptyNames_archAliases harch).2 hblankArch]
  exact ⟨hcross, by rw [SmokeTest.run_skipped_iff, SmokeTest.run_skipped_iff, hcross]⟩

/-! ### Spellings -/

/-- Settings for a target of these names, with the host as the machine that builds. -/
def targeting (os arch : String) : Settings :=
  { Settings.detect with os, arch, osBuild := some "Linux", archBuild := some "x86_64" }

/-- What a test answers for settings if nothing is there that could be run. -/
abbrev testedFor (s : Settings) : Except Failure TestResult :=
  (SmokeTest.run bareContext idleOptions s (.leaving [] []) (.start .empty ())).1

/-- An alias in capitals and with blanks around it. -/
theorem isCrossBuilding_congr_aliases :
    let s := targeting "Windows" "AMD64"
    let t := targeting " WIN32\t" "x64"
    (normalizeOs s.os = normalizeOs t.os ∧ normalizeArch s.arch = normalizeArch t.arch ∧
        s.buildOs = t.buildOs ∧ s.buildArch = t.buildArch) ∧
      SmokeTest.Skipped (testedFor s) ∧ SmokeTest.Skipped (testedFor t) := by
  intro s t
  have hnames : normalizeOs s.os = normalizeOs t.os ∧ normalizeArch s.arch = normalizeArch t.arch ∧
      s.buildOs = t.buildOs ∧ s.buildArch = t.buildArch := by decide +kernel
  obtain ⟨hos, harch, hbuildOs, hbuildArch⟩ := hnames
  have hsame := (isCrossBuilding_congr hos harch hbuildOs hbuildArch (by decide) (by decide)
    bareContext bareContext idleOptions idleOptions (.leaving [] []) (.leaving [] [])
    (.start .empty ()) (.start .empty ())).2
  have hskipped : SmokeTest.Skipped (testedFor s) :=
    SmokeTest.run_skipped_iff.2 (by decide +kernel)
  exact ⟨⟨hos, harch, hbuildOs, hbuildArch⟩, hskipped, hsame.1 hskipped⟩

/-- **A name of blanks makes another decision than an empty one.** -/
theorem isCrossBuilding_blank :
    let s := targeting "" "x86_64"
    let t := targeting " " "x86_64"
    (normalizeOs s.os = normalizeOs t.os ∧ normalizeArch s.arch = normalizeArch t.arch ∧
        s.buildOs = t.buildOs ∧ s.buildArch = t.buildArch) ∧
      s.isCrossBuilding = false ∧ t.isCrossBuilding = true :=
  ⟨by decide +kernel, by decide +kernel,
    Settings.isCrossBuilding_of_blank (by decide) (by decide) (by decide +kernel)⟩

end ConsumerCheck
