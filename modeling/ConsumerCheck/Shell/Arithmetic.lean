import ConsumerCheck.Shell.Number

/-!
# Arithmetic of the shell

An expression stands for a number of 64 bits. A name stands for the value of a variable, and may be set; a part
that does not count, such as the right side of `0 && x`, sets nothing and has no faults but those of its
form.

* `Arithmetic.Fault` — why an expression has no value, with the wording;
* `Arithmetic.value` — the value of an expression, and the variables that it sets.

The readers evaluate while they read, so the first fault from the left is the one that is found. Each takes the
lexeme that it begins with, and the one after it where that was looked at already.
-/

namespace ConsumerCheck.Shell.Arithmetic

/-- Why an expression has no value. -/
inductive Fault where
  /-- A variable whose value is no number. -/
  | notNumber (text : Chars)
  | noOperand
  | unclosed
  | noAlternative
  | moreText
  | zeroDivisor
  /-- A digit that the base of its number does not have. -/
  | badDigit
  /-- A value for something that is no variable. -/
  | noTarget
  | negativePower
  /-- A fault of the expression that a variable holds, with its words, and whether it ends the script. -/
  | inner (text : Chars) (ends : Bool)
  deriving DecidableEq, Repr

/-- The words for a fault of an expression. -/
def Fault.message (expression : Chars) : Fault → Chars
  | notNumber text => chars "Illegal number: " ++ text
  | noOperand => within "expecting primary"
  | unclosed => within "expecting ')'"
  | noAlternative => within "expecting ':'"
  | moreText => within "expecting EOF"
  | zeroDivisor => within "division by zero"
  | badDigit | noTarget | negativePower => within "expecting EOF"
  | inner text _ => text
where
  /-- A reason with the expression. -/
  within (reason : String) : Chars :=
    chars ("arithmetic expression: " ++ reason ++ ": \"") ++ expression ++ ['"']

/-- The words of the richer shell for a fault of an expression, which name the part that it was found at. -/
def Fault.richMessage (expression token : Chars) (fault : Fault) : Chars :=
  let isKnown (c : Char) : Bool := c.isAlphanum || "_#@<>=!&|+-*/%^~?:(),".toList.contains c
  let reason := match fault with
    | moreText =>
      if token.head?.all isKnown then "syntax error in expression"
      else "syntax error: invalid arithmetic operator"
    | notNumber _ => "syntax error in expression"
    | noOperand => "syntax error: operand expected"
    | unclosed => "missing \x60)'"
    | noAlternative => "\x60:' expected for conditional expression"
    | zeroDivisor => "division by 0"
    | badDigit => "value too great for base"
    | noTarget => "attempted assignment to non-variable"
    | negativePower => "exponent less than 0"
    | inner .. => ""
  match fault with
  | inner text _ => text
  | _ => expression ++ chars (": " ++ reason ++ " (error token is \"") ++ token ++ chars "\")"

/-- Whether a fault ends the script. -/
def Fault.endsScript : Fault → Bool
  | inner _ ends => ends
  | _ => false

/-- What an expression is made of between its blanks. -/
inductive Lexeme where
  | number (n : Int64)
  /-- Digits that make no number. -/
  | badNumber
  | name (name : Chars)
  | sign (text : String)
  | ending
  deriving DecidableEq

/-- How far an expression has been read. -/
structure Progress where
  rest : Chars
  /-- The lexeme after the part that was read last. -/
  last : Lexeme
  /-- The variables that were set, the last one first. -/
  set : List (Chars × Int64)
  /-- What was left of the expression at the start of each lexeme, the last one first. -/
  starts : List Chars
  /-- Whether the signs of the richer shell count. -/
  rich : Bool

/-- What reads a part of an expression. -/
abbrev Calculation := EStateM Fault Progress

/-- The value of a variable as a number; a blank one counts as zero. -/
def ofVariable (text : Chars) : Except Fault Int64 :=
  match Number.leading true text with
  | (none, rest) => if rest.all Number.isGap then .ok 0 else .error (.notNumber text)
  | (some n, rest) =>
    if rest.all Number.isGap && Number.fits n then .ok (Int64.ofInt n) else .error (.notNumber text)

/-- The signs, each before those that it begins with. -/
def signs : List String := [
  "<<=", ">>=", "<<", ">>", "<=", ">=", "==", "!=", "&&", "||", "+=", "-=", "*=", "/=", "%=",
  "&=", "|=", "^=", "<", ">", "=", "!", "&", "|", "+", "-", "*", "/", "%", "^", "~", "?", ":",
  "(", ")"]

/-- The signs that only the richer shell has. -/
def richSigns : List String := ["**", "++", "--", ","]

/-- The value of a digit in a number whose base stands before it. -/
def digitIn (base : Nat) (c : Char) : Option Nat :=
  let value :=
    if c.isDigit then some (c.toNat - 0x30)
    else if c.isLower then some (c.toNat - 0x61 + 10)
    else if c.isUpper then some (c.toNat - 0x41 + if base ≤ 36 then 10 else 36)
    else if c = '@' then some 62
    else if c = '_' then some 63
    else none
  value.filter (· < base)

/-- The number of these characters in a base, if all are digits. -/
def numberIn (base : Nat) (digits : Chars) : Option Nat :=
  if digits = [] then none
  else digits.foldl (fun n c => n.bind fun n => (digitIn base c).map (n * base + ·)) (some 0)

/-- The number that the richer shell reads here. -/
def richNumber (text : Chars) : Lexeme :=
  let found := match text.span (· != '#') with
    | (base, '#' :: digits) =>
      (numberIn 10 base).bind fun base => if 2 ≤ base ∧ base ≤ 64 then numberIn base digits else none
    | (digits, _) =>
      match digits with
      | '0' :: x :: more =>
        if x = 'x' ∨ x = 'X' then if more.isEmpty then some 0 else numberIn 16 more else numberIn 8 (x :: more)
      | digits => numberIn 10 digits
  match found with
  | some n => .number (Int64.ofInt n)
  | none => .badNumber

/-- The next lexeme. A character with no meaning is a sign of its own. -/
def lexeme (rich : Bool) (cs : Chars) : Lexeme × Chars :=
  match cs.dropWhile fun c => c == ' ' || c == '\t' || c == '\n' with
  | [] => (.ending, [])
  | c :: rest =>
    if c.isDigit && rich then
      let text := (c :: rest).takeWhile fun c => c.isAlphanum || "#@_".toList.contains c
      (richNumber text, (c :: rest).drop text.length)
    else if c.isDigit then
      let (n, after) := Number.leading true (c :: rest)
      (.number (Int64.ofInt (min Number.greatest (n.getD 0))), after)
    else if isNameStart c then
      let more := rest.takeWhile isNameChar
      (.name (c :: more), rest.drop more.length)
    else
      let known := if rich then richSigns.take 3 ++ signs ++ richSigns else signs
      match known.find? fun text => text.toList.isPrefixOf (c :: rest) with
      | some text => (.sign text, (c :: rest).drop text.length)
      | none => (.sign (String.ofList [c]), rest)

/-- The next lexeme. -/
def next : Calculation Lexeme := do
  let p ← get
  let (found, rest) := lexeme p.rich p.rest
  let start := p.rest.dropWhile fun c => c == ' ' || c == '\t' || c == '\n'
  set { p with rest, starts := start :: p.starts }
  return found

/-- Notes the lexeme after the part that was read. -/
def note (l : Lexeme) : Calculation Unit := modify fun p => { p with last := l }

/-- How loosely a sign binds what is beside it, if it stands between two numbers. -/
def looseness? : Lexeme → Option Nat
  | .sign text =>
    [("*", 0), ("/", 0), ("%", 0), ("+", 1), ("-", 1), ("<<", 2), (">>", 2), ("<", 3), ("<=", 3),
      (">", 3), (">=", 3), ("==", 4), ("!=", 4), ("&", 5), ("^", 6), ("|", 7)].lookup text
  | _ => none

/-- One for a condition that holds, and zero for one that does not. -/
def ofBool (b : Bool) : Int64 := if b then 1 else 0

/-- The value of a sign between two numbers. -/
def combine (sign : String) (a b : Int64) : Except Fault Int64 :=
  match sign with
  | "|" => .ok (a ||| b)
  | "^" => .ok (a ^^^ b)
  | "&" => .ok (a &&& b)
  | "==" => .ok (ofBool (a == b))
  | "!=" => .ok (ofBool (a != b))
  | "<" => .ok (ofBool (a < b))
  | "<=" => .ok (ofBool (a ≤ b))
  | ">" => .ok (ofBool (b < a))
  | ">=" => .ok (ofBool (b ≤ a))
  | "<<" => .ok (a <<< b)
  | ">>" => .ok (a >>> b)
  | "+" => .ok (a + b)
  | "-" => .ok (a - b)
  | "*" => .ok (a * b)
  | "/" => if b = 0 then .error .zeroDivisor else .ok (a / b)
  | "%" => if b = 0 then .error .zeroDivisor else .ok (a % b)
  | _ => .error .moreText

/-- A result, or the fault that there is instead of it. -/
def certain (result : Except Fault α) : Calculation α :=
  match result with
  | .ok a => pure a
  | .error fault => throw fault

/-- The sign between two numbers that an assignment applies first. -/
def assigned? : Lexeme → Option (Option String)
  | .sign "=" => some none
  | .sign text =>
    if ["+=", "-=", "*=", "/=", "%=", "<<=", ">>=", "&=", "^=", "|="].contains text then
      some (some (String.ofList text.toList.dropLast))
    else none
  | _ => none

/-- The value of a name: what the expression has set, or else what the variable holds. -/
def look (numberOf : Chars → Except Fault Int64) (name : Chars) : Calculation Int64 := do
  match (← get).set.lookup name with
  | some n => return n
  | none => certain (numberOf name)

/-- Sets a variable. -/
def put (name : Chars) (value : Int64) : Calculation Unit :=
  modify fun p => { p with set := (name, value) :: p.set }

/-- A fault at the lexeme that so many others were read after. -/
def faultBehind (later : Nat) (fault : Fault) : Calculation α := do
  modify fun p => { p with starts := (p.starts.drop later).dropWhile (· = []) }
  throw fault

/-- A power of a number. -/
def power (base : Int64) : Nat → Int64
  | 0 => 1
  | n + 1 => base * power base n

section

variable (numberOf : Chars → Except Fault Int64)

mutual

/-- A number, a name, a negation or an expression in brackets. -/
def primary : Nat → (counts : Bool) → Lexeme → Lexeme → Calculation Int64
  | 0, _, _, _ => throw .noOperand
  | n + 1, counts, token, after => do
    match token with
    | .number value =>
      note after
      return value
    | .badNumber => faultBehind 1 .badDigit
    | .name name =>
      let value ← if counts then look numberOf name else pure 0
      match after with
      | .sign "++" =>
        note (← next)
        if counts then put name (value + 1)
        return value
      | .sign "--" =>
        note (← next)
        if counts then put name (value - 1)
        return value
      | after =>
        note after
        return value
    | .sign "(" =>
      let value ← sequence n counts after
      if (← get).last ≠ .sign ")" then faultBehind 0 .unclosed
      note (← next)
      return value
    | .sign "++" => stepped n counts 1 after
    | .sign "--" => stepped n counts (-1) after
    | .sign "+" => primary n counts after (← next)
    | .sign "-" => return -(← primary n counts after (← next))
    | .sign "!" => return ofBool ((← primary n counts after (← next)) == 0)
    | .sign "~" => return ~~~(← primary n counts after (← next))
    | _ => faultBehind 1 .noOperand

/-- A variable that is changed by a step before its value counts. Before anything else the signs of the step
stand for themselves. -/
def stepped : Nat → (counts : Bool) → Int64 → Lexeme → Calculation Int64
  | 0, _, _, _ => throw .noOperand
  | n + 1, counts, step, token => do
    match token with
    | .name name =>
      note (← next)
      if counts then
        let value := (← look numberOf name) + step
        put name value
        return value
      else return 0
    | token => primary n counts token (← next)

/-- A number, or a power of one. -/
def raised : Nat → (counts : Bool) → Lexeme → Lexeme → Calculation Int64
  | 0, _, _, _ => throw .noOperand
  | n + 1, counts, token, after => do
    let a ← primary n counts token after
    if (← get).last ≠ .sign "**" then return a
    else
      let first ← next
      let b ← raised n counts first (← next)
      if b < 0 then faultBehind 0 .negativePower
      return power a b.toInt.toNat

/-- What follows a first operand and a sign, as far as it binds more strongly than `limit`. -/
def chain : Nat → (counts : Bool) → Int64 → Lexeme → (limit : Nat) → Calculation Int64
  | 0, _, _, _, _ => throw .noOperand
  | n + 1, counts, a, sign, limit => do
    let first ← next
    let operand := (← get).starts
    let b ← raised n counts first (← next)
    let own := (looseness? sign).getD 0
    let b ← match looseness? (← get).last with
      | some other => if other < own then chain n counts b (← get).last own else pure b
      | none => pure b
    let a ← match counts, sign with
      | true, .sign text =>
        match combine text a b with
        | .ok value => pure value
        | .error fault =>
          modify fun p => { p with starts := operand }
          throw fault
      | _, _ => pure b
    match looseness? (← get).last with
    | some other => if limit ≤ other then return a else chain n counts a (← get).last limit
    | none => return a

/-- Operands joined by signs of arithmetic. -/
def binary : Nat → (counts : Bool) → Lexeme → Lexeme → Calculation Int64
  | 0, _, _, _ => throw .noOperand
  | n + 1, counts, token, after => do
    let a ← raised n counts token after
    let sign := (← get).last
    if (looseness? sign).isSome then chain n counts a sign 8 else return a

/-- Conditions of which all must hold. -/
def conjunction : Nat → (counts : Bool) → Lexeme → Lexeme → Calculation Int64
  | 0, _, _, _ => throw .noOperand
  | n + 1, counts, token, after => do
    let a ← binary n counts token after
    if (← get).last ≠ .sign "&&" then return a
    else
      let first ← next
      let b ← conjunction n (counts && a != 0) first (← next)
      return ofBool (a != 0 && b != 0)

/-- Conditions of which one must hold. -/
def disjunction : Nat → (counts : Bool) → Lexeme → Lexeme → Calculation Int64
  | 0, _, _, _ => throw .noOperand
  | n + 1, counts, token, after => do
    let a ← conjunction n counts token after
    if (← get).last ≠ .sign "||" then return a
    else
      let first ← next
      let b ← disjunction n (counts && a == 0) first (← next)
      return ofBool (a != 0 || b != 0)

/-- A condition with two alternatives. -/
def conditional : Nat → (counts : Bool) → Lexeme → Lexeme → Calculation Int64
  | 0, _, _, _ => throw .noOperand
  | n + 1, counts, token, after => do
    let a ← disjunction n counts token after
    if (← get).last ≠ .sign "?" then return a
    else
      let b ← sequence n (counts && a != 0) (← next)
      if (← get).last ≠ .sign ":" then faultBehind 0 .noAlternative
      let first ← next
      let c ← conditional n (counts && a == 0) first (← next)
      return if a ≠ 0 then b else c

/-- An expression that may set a variable. -/
def assignment : Nat → (counts : Bool) → Lexeme → Calculation Int64
  | 0, _, _ => throw .noOperand
  | n + 1, counts, token => do
    let after ← next
    match token, assigned? after with
    | .name name, some sign =>
      let value ← assignment n counts (← next)
      if !counts then return value
      else
        let value ← match sign with
          | none => pure value
          | some sign => do certain (combine sign (← look numberOf name) value)
        put name value
        return value
    | token, _ => conditional n counts token after

/-- Expressions one after the other, of which the last one counts. -/
def sequence : Nat → (counts : Bool) → Lexeme → Calculation Int64
  | 0, _, _ => throw .noOperand
  | n + 1, counts, token => do
    let value ← assignment n counts token
    if (← get).last = .sign "," then sequence n counts (← next) else return value

end

/-- A whole expression. -/
def whole (length : Nat) : Calculation Int64 := do
  let value ← sequence numberOf (10 * length + 16) true (← next)
  match (← get).last with
  | .ending => return value
  | .sign "=" => faultBehind 0 .noTarget
  | _ => faultBehind 0 .moreText

end

/-- The value of an expression, and the variables that it sets, the first one first. -/
def value (valueOf : Chars → Option Chars) (expression : Chars) :
    Except Fault Int64 × List (Chars × Int64) :=
  let numberOf (name : Chars) : Except Fault Int64 := ofVariable ((valueOf name).getD [])
  match whole numberOf expression.length ⟨expression, .ending, [], [], false⟩ with
  | .ok n p => (.ok n, p.set.reverse)
  | .error fault p => (.error fault, p.set.reverse)

/-- The value of an expression in the richer shell, where the value of a variable is an expression again, up to a
depth. With `strict` a variable must have a value. A fault is given in words, and with whether it ends the
script. -/
def richValue (valueOf : Chars → Option Chars) (strict : Bool) : Nat → (expression : Chars) →
    Except (Chars × Bool) Int64 × List (Chars × Int64)
  | 0, expression => (.error (expression ++ chars ": expression recursion level exceeded (error token is \"" ++
      expression ++ chars "\")", false), [])
  | n + 1, expression =>
    if expression.all Number.isGap then (.ok 0, [])
    else
      let numberOf (name : Chars) : Except Fault Int64 :=
        match valueOf name, strict with
        | none, true => .error (.inner (name ++ chars ": unbound variable") true)
        | value, _ =>
          (richValue valueOf strict n (value.getD [])).1.mapError fun (text, ends) => .inner text ends
      match whole numberOf expression.length ⟨expression, .ending, [], [], true⟩ with
      | .ok n p => (.ok n, p.set.reverse)
      | .error fault p =>
        let token := (p.starts.dropWhile (· = [])).headD []
        (.error (fault.richMessage (expression.dropWhile Number.isGap) token, fault.endsScript), p.set.reverse)

end ConsumerCheck.Shell.Arithmetic
