import ConsumerCheck.Proofs.Exchange
import ConsumerCheck.Proofs.FileSystem.Persistence
import ConsumerCheck.Proofs.Text.Ascii

/-!
# The search path of the example

The example is started with the staged directory in front of the directories that the caller's search path lists.
None of them is lost and none is moved. But a variable is handed over as text, so what is not UTF-8 in their names
is lost; and a staged directory with a colon in its name stands alone.

* `Context.loaderDirectories` — the directories that the caller's search path lists.

Principal results: `splitSearchPath_legible` — a search path can be split before it is read as text or after;
`search_path_kept` — what the example is started with; `search_path_lost` — with a colon in the name of the staged
directory, or with other octets than UTF-8, it is not what the caller had.
-/

namespace ConsumerCheck

namespace Context

/-- The directories that the caller's search path lists; none if there is no such variable. -/
def loaderDirectories (c : Context) : List Path :=
  ((c.valueOf? SmokeTest.loaderVariable).map splitSearchPath).getD []

theorem splitSearchPath_append (octets rest : Bytes) :
    splitSearchPath (octets ++ colon :: rest) = splitSearchPath octets ++ splitSearchPath rest := by
  rw [splitSearchPath, Path.splitAt_append, List.map_append]
  rfl

theorem splitSearchPath_of_not_mem {p : Path} (h : colon ∉ p.octets) :
    splitSearchPath p.octets = [p] := by
  rw [splitSearchPath, Path.splitAt_of_not_mem h]
  rfl

/-- No directory of a search path has a colon in its name. -/
theorem not_mem_of_mem_splitSearchPath {octets : Bytes} {p : Path} (h : p ∈ splitSearchPath octets) :
    colon ∉ p.octets := by
  obtain ⟨piece, hpiece, rfl⟩ := List.mem_map.1 h
  exact (Path.of_mem_splitAt hpiece).1

/-- **Reading a search path as text reads each of its directories as text.** -/
theorem splitSearchPath_legible (octets : Bytes) :
    splitSearchPath (Utf8.encode (Utf8.decodeLossy octets)) =
      (splitSearchPath octets).map Path.legible := by
  -- the first directory is read on its own, and what follows the colon is shorter
  induction hlength : octets.length using Nat.strong_induction_on generalizing octets with
  | _ length ih =>
    by_cases hcolon : colon ∈ octets
    · obtain ⟨first, rest, rfl, hfirst⟩ := List.eq_append_cons_of_mem hcolon
      have hread : Utf8.encode (Utf8.decodeLossy (first ++ colon :: rest)) =
          Utf8.encode (Utf8.decodeLossy first) ++ colon :: Utf8.encode (Utf8.decodeLossy rest) :=
        Utf8.encode_decodeLossy_append (by decide : 0x3A < 0x80) first rest
      rw [List.length_append, List.length_cons] at hlength
      rw [hread, splitSearchPath_append, splitSearchPath_append, List.map_append,
        ih first.length (by omega) first rfl, ih rest.length (by omega) rest rfl]
    · have hread : colon ∉ Utf8.encode (Utf8.decodeLossy octets) := fun h =>
        hcolon (Utf8.mem_of_mem_encode_decodeLossy (by decide) (by decide : 0x3A < 0x80) h)
      rw [splitSearchPath_of_not_mem (p := ⟨octets⟩) hcolon]
      exact splitSearchPath_of_not_mem (p := ⟨_⟩) hread

end Context

namespace SmokeTest

open Context (colon splitSearchPath)

theorem splitSearchPath_loaderPath {dir : Path} (h : colon ∉ dir.octets) (c : Context) :
    splitSearchPath (loaderPath (c.valueOf? loaderVariable) dir) = dir :: c.loaderDirectories := by
  have hcontains : ¬dir.octets.contains colon = true := by simpa using h
  unfold loaderPath Context.loaderDirectories
  rw [if_neg hcontains]
  cases c.valueOf? loaderVariable with
  | none => exact Context.splitSearchPath_of_not_mem h
  | some caller =>
    dsimp only
    rw [Context.splitSearchPath_append, Context.splitSearchPath_of_not_mem h]
    rfl

theorem loaderPath_of_mem {dir : Path} (h : colon ∈ dir.octets) (existing : Option Bytes) :
    loaderPath existing dir = dir.octets := by
  unfold loaderPath
  rw [if_pos (by simpa using h)]

theorem valueOf?_exampleCommand (c : Context) (fs : FileSystem) (options : TestOptions)
    (settings : Settings) :
    (exampleCommand c fs options settings).valueOf? loaderVariable =
      some (Utf8.decodeLossy (loaderPath (c.valueOf? loaderVariable) options.runtimeDir)) := by
  simp [exampleCommand, Command.set, Command.valueOf?]

/-- A native test starts the example and nothing else. -/
theorem trace_run {σ : Type} {settings : Settings} (hnative : settings.isCrossBuilding = false)
    (c : Context) (options : TestOptions) (r : Runner σ) (w : World σ) :
    (run c options settings r w).2.trace =
      w.trace ++ [exampleCommand c w.files options settings] := by
  obtain ⟨asked, -, htrace, hcourse⟩ := run_recording c options settings r w []
  rw [htrace, hcourse.commands_eq, hnative]
  rfl

end SmokeTest

open Context (colon splitSearchPath)

/-- **The example is started with the staged directory in front of the caller's search path**, all of it in its
order, as far as text can hold it; or with the staged directory alone if a colon is in its name. So the search path
is the one that is meant exactly if there is no colon and all of it is text. -/
theorem search_path_kept {σ : Type} {settings : Settings} (hnative : settings.isCrossBuilding = false)
    (c : Context) (options : TestOptions) (r : Runner σ) (w : World σ) :
    ∃ cmd value, (SmokeTest.run c options settings r w).2.trace = w.trace ++ [cmd] ∧
      cmd.valueOf? SmokeTest.loaderVariable = some value ∧
      (colon ∉ options.runtimeDir.octets →
        splitSearchPath (Utf8.encode value) =
          (options.runtimeDir :: c.loaderDirectories).map Path.legible) ∧
      (colon ∈ options.runtimeDir.octets → value = options.runtimeDir.display) ∧
      (splitSearchPath (Utf8.encode value) = options.runtimeDir :: c.loaderDirectories ↔
        colon ∉ options.runtimeDir.octets ∧
          ∀ p ∈ options.runtimeDir :: c.loaderDirectories, p.IsText) := by
  have hkept : colon ∉ options.runtimeDir.octets →
      splitSearchPath (Utf8.encode (Utf8.decodeLossy
          (SmokeTest.loaderPath (c.valueOf? SmokeTest.loaderVariable) options.runtimeDir))) =
        (options.runtimeDir :: c.loaderDirectories).map Path.legible := by
    intro hcolon
    rw [Context.splitSearchPath_legible, SmokeTest.splitSearchPath_loaderPath hcolon]
  refine ⟨_, _, SmokeTest.trace_run hnative c options r w,
    SmokeTest.valueOf?_exampleCommand c w.files options settings, hkept, fun hcolon => ?alone, ?_, ?_⟩
  case alone =>
    rw [SmokeTest.loaderPath_of_mem hcolon]
    rfl
  · intro hmeant
    have hcolon : colon ∉ options.runtimeDir.octets :=
      Context.not_mem_of_mem_splitSearchPath (by rw [hmeant]; exact List.mem_cons_self)
    exact ⟨hcolon, Path.map_legible_eq_iff.1 ((hkept hcolon).symm.trans hmeant)⟩
  · rintro ⟨hcolon, htext⟩
    exact (hkept hcolon).trans (Path.map_legible_eq_iff.2 htext)

/-- A caller with this search path. -/
def searching (caller : Bytes) : Context :=
  ⟨[], [(Utf8.encode SmokeTest.loaderVariable, caller)], .ofText "/root"⟩

/-- A test with this staged directory. -/
def stagedAt (dir : Path) : TestOptions := ⟨.ofText "out", exampleName, dir⟩

/-- The caller lists a directory, an empty one, and one that is no text. -/
theorem search_path_kept_illegible :
    let c := searching [0x2F, 0x61, 0x3A, 0x3A, 0x62, 0xFF]
    Settings.detect.isCrossBuilding = false ∧
    c.loaderDirectories = [.ofText "/a", .ofText "", ⟨[0x62, 0xFF]⟩] ∧
    ∃ cmd value,
      (SmokeTest.run c (stagedAt (.ofText "out/bin")) .detect (.leaving [] [])
        (.start .empty ())).2.trace = [cmd] ∧
      cmd.valueOf? SmokeTest.loaderVariable = some value ∧
      splitSearchPath (Utf8.encode value) =
        [.ofText "out/bin", .ofText "/a", .ofText "", .ofText "b\uFFFD"] := by
  intro c
  have hnative : Settings.detect.isCrossBuilding = false := by decide +kernel
  have hdirectories : c.loaderDirectories = [.ofText "/a", .ofText "", ⟨[0x62, 0xFF]⟩] := by
    decide +kernel
  obtain ⟨cmd, value, htrace, hvalue, hkept, -, -⟩ := search_path_kept hnative c
    (stagedAt (.ofText "out/bin")) (.leaving [] []) (.start .empty ())
  refine ⟨hnative, hdirectories, cmd, value, htrace, hvalue, (hkept (by decide +kernel)).trans ?_⟩
  rw [hdirectories]
  decide +kernel

/-- The command has a search path that ends in all directories of the caller's. -/
def KeepsSearchPath (c : Context) (cmd : Command) : Prop :=
  ∃ value, cmd.valueOf? SmokeTest.loaderVariable = some value ∧
    c.loaderDirectories <:+ splitSearchPath (Utf8.encode value)

/-- **The search path of the caller is lost** if a colon is in the name of the staged directory, and altered if it is
no text. -/
theorem search_path_lost :
    ¬KeepsSearchPath (searching (Utf8.encode "/opt/lib"))
      (SmokeTest.exampleCommand (searching (Utf8.encode "/opt/lib")) .empty
        (stagedAt (.ofText "a:b")) .detect) ∧
    ¬KeepsSearchPath (searching [0xFF])
      (SmokeTest.exampleCommand (searching [0xFF]) .empty (stagedAt (.ofText "out/bin")) .detect) := by
  constructor
  · rintro ⟨value, hvalue, hkept⟩
    rw [SmokeTest.valueOf?_exampleCommand] at hvalue
    obtain rfl := Option.some.inj hvalue
    exact absurd hkept (by decide +kernel)
  · rintro ⟨value, hvalue, hkept⟩
    rw [SmokeTest.valueOf?_exampleCommand] at hvalue
    obtain rfl := Option.some.inj hvalue
    exact absurd hkept (by decide +kernel)

end ConsumerCheck
