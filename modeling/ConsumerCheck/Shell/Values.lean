import ConsumerCheck.Shell.Condition
import ConsumerCheck.Shell.Process
import ConsumerCheck.Shell.Regex.Reading

/-!
# Lists, conditions and expressions of the richer shell

* `valuesOf` — the values in brackets, each with its place;
* `assignRichly` — what a word sets;
* `Check.holds` — whether a condition between double brackets holds;
* `arithmeticStatus` — how a command that is an expression ends.
-/

namespace ConsumerCheck.Shell

section

variable (run : Evaluate)

/-- A value that a variable is set to, expanded. -/
def valueText (value : Word) : Action Chars := do
  let text ← Action.assignmentOf (capture run) (.char '=' :: value)
  return text.drop 1

/-- The values of a word in brackets: at a place that it names, or from a place on. -/
def placedValues (next : Nat) (word : Word) : Action (List (Nat × Chars)) := do
  let named := match word with
    | .char '[' :: inside =>
      match subscriptIn 0 inside with
      | some (subscript, .char '=' :: value) => some (subscript, value)
      | _ => none
    | _ => none
  match named with
  | some (subscript, value) => do
    let place ← calculateNumber (← Action.textOf (capture run) subscript)
    return [(place.toNat, ← valueText run value)]
  | none => do
    let fields ← Action.fieldsOf (capture run) word
    return fields.zipIdx.map fun (field, i) => (next + i, field)

/-- The values in brackets, each with its place, behind those that are there. -/
def valuesOf (known : List (Nat × Chars)) : List Word → Action (List (Nat × Chars))
  | [] => return known
  | word :: rest => do
    let next := ((known.map (·.1 + 1)).foldl max 0)
    let found ← placedValues run next word
    valuesOf (found.foldl (fun known (n, value) => Session.putAt n value known) known) rest

/-- What a word sets: the variable, the subscript, and the value or the list of values. -/
structure Setting where
  name : Chars
  key : Option Chars
  value : Chars ⊕ List (Nat × Chars)

/-- What a word sets, with its parts expanded. -/
def settingOf (a : Assignment) : Action Setting := do
  let key ← if a.subscript.isEmpty then pure none
    else some <$> Action.textOf (capture run) a.subscript
  match a.value with
  | [.values list] => do
    let s ← get
    let known := if a.appends then s.elements a.name else []
    return ⟨a.name, key, .inr (← valuesOf run known list)⟩
  | value => do
    let text ← valueText run value
    let before ← if a.appends then select a.name key else pure ⟨none, []⟩
    return ⟨a.name, key, .inl (before.values.flatten ++ text)⟩

/-- A setting as it is shown. -/
def Setting.shown (setting : Setting) : Chars :=
  let target := setting.name ++ (setting.key.map fun key => '[' :: key ++ [']']).getD []
  match setting.value with
  | .inl text => target ++ '=' :: text
  | .inr list => target ++ chars "=(" ++ [' '].intercalate (list.map (·.2)) ++ [')']

/-- Sets what a setting asks for. -/
def Setting.apply (setting : Setting) : Action Unit := do
  match setting.value with
  | .inl text => assignTo setting.name setting.key text
  | .inr list => do
    Action.checkWritable setting.name
    modify (·.withList setting.name list)

/-- The text of a regular expression: what is quoted stands for itself. -/
def expressionText : (quoted : Bool) → List Glyph → Chars
  | _, [] => []
  | quoted, .quotes :: rest => expressionText (!quoted) rest
  | quoted, .stop :: rest => expressionText quoted rest
  | quoted, .escaped c :: rest => literalSign c ++ expressionText quoted rest
  | true, .plain c :: rest => literalSign c ++ expressionText true rest
  | false, .plain c :: rest => c :: expressionText false rest
where
  /-- A character that stands for itself. -/
  literalSign (c : Char) : Chars := if ".[]*+?()\x7b\x7d^$|\\".toList.contains c then ['\\', c] else [c]

/-- Whether a part of a text matches a regular expression. What its groups have taken is kept. -/
def matchesExpression (text : Chars) (pattern : Word) : Action (Option Bool) := do
  let stretches ← expandWord (capture run) ⟨false, false, false, false⟩ pattern
  match Regex.read ⟨true, true⟩ (expressionText false (stretches.flatMap (·.glyphs))) with
  | .error _ => return none
  | .ok (r, _) =>
    let subject : Regex.Subject := ⟨text.toArray, false, false⟩
    let name := chars "BASH_REMATCH"
    match r.first? subject 0 with
    | none =>
      modify (·.withList name [])
      return some false
    | some m =>
      let groups := m.groups.map fun (n, first, last) => (n, subject.between first last)
      let all := groups.foldl (fun all (n, text) => Session.putAt n text all)
        [(0, subject.between m.start m.finish)]
      modify (·.withList name all)
      return some true

/-- The comparisons of numbers. -/
def numberSigns : List (String × (Int → Int → Bool)) := [
  ("-eq", (· == ·)), ("-ne", (· != ·)), ("-lt", fun m n => m < n), ("-le", fun m n => m ≤ n),
  ("-gt", fun m n => n < m), ("-ge", fun m n => n ≤ m)]

/-- Whether a condition between double brackets holds; nothing if a part of it is no condition. -/
def Check.outcome : Check → Action (Option Bool)
  | holds sign operand => do
    let text ← Action.textOf (capture run) operand
    let sign := if sign = "-a" then "-e" else sign
    let s ← get
    if sign = "-v" then return some (s.stored? text).isSome
    else if sign = "-o" then return some ((Mode.ofName? true text).any s.has)
    else return (Condition.unary s (chars sign) text).toOption
  | compares sign first second => do
    let text ← Action.textOf (capture run) first
    match numberSigns.lookup sign with
    | some relates => do
      let other ← Action.textOf (capture run) second
      match ← calculateRichly text with
      | .error complaint => do
        Action.complain (chars "[[: " ++ complaint)
        return some false
      | .ok m =>
        match ← calculateRichly other with
        | .error complaint => do
          Action.complain (chars "[[: " ++ complaint)
          return some false
        | .ok n => return some (relates m.toInt n.toInt)
    | none =>
      if sign = "=~" then matchesExpression run text second
      else if sign = "=" || sign = "==" then
        return some ((← Action.patternOf (capture run) second).matchesText text)
      else if sign = "!=" then
        return some !((← Action.patternOf (capture run) second).matchesText text)
      else
        let other ← Action.textOf (capture run) second
        return (Condition.binaryByAge (← get) text (chars sign) other).toOption
  | negated check => return (← check.outcome).map (!·)
  | both first second => do
    match ← first.outcome with
    | some true => second.outcome
    | found => return found
  | either first second => do
    match ← first.outcome with
    | some false => second.outcome
    | found => return found

/-- How a condition between double brackets ends as a command. -/
def Check.status (check : Check) : Action Nat := do
  match ← check.outcome run with
  | some true => return 0
  | some false => return 1
  | none => return 2

/-- How an expression ends as a command. -/
def arithmeticStatus (expression : Word) : Action Nat := do
  match ← calculateRichly (← Action.textOf (capture run) expression) with
  | .ok n => return if n = 0 then 1 else 0
  | .error complaint => do
    Action.complain (chars "((: " ++ complaint)
    return 1

end

end ConsumerCheck.Shell
