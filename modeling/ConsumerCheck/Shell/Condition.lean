import ConsumerCheck.Shell.Escape
import ConsumerCheck.Shell.Number
import ConsumerCheck.Shell.Session

/-!
# Conditions of the shell

The command `test` takes its arguments as a condition. An argument may be an operator or an operand, which
depends on what stands beside it.

* `Condition.Operator` — the operators;
* `Condition.Fault` — why arguments make no condition;
* `Condition.holds`, `Condition.holdsCounted` — whether the condition that the arguments make holds.

The readers walk along the arguments. Each takes the arguments from the one it stands at, and gives back the
arguments from the last one it has used.
-/

namespace ConsumerCheck.Shell.Condition

/-- What an argument may be apart from an operand. -/
inductive Operator where
  | unary
  | binary
  | not
  | and
  | or
  | opening
  | closing
  deriving DecidableEq, Repr

/-- The operators on one operand. -/
def unarySigns : List String := [
  "-r", "-w", "-x", "-e", "-f", "-d", "-c", "-b", "-p", "-u", "-g", "-k", "-s", "-t", "-z", "-n",
  "-h", "-O", "-G", "-L", "-S"]

/-- The operators on two operands. -/
def binarySigns : List String := [
  "=", "!=", "<", ">", "-eq", "-ne", "-ge", "-gt", "-le", "-lt", "-nt", "-ot", "-ef"]

/-- The operator of a sign. -/
def Operator.of? (sign : Chars) : Option Operator :=
  let sign := String.ofList sign
  if unarySigns.contains sign then some unary
  else if binarySigns.contains sign then some binary
  else [("!", not), ("-a", and), ("-o", or), ("(", opening), (")", closing)].lookup sign

/-- Whether an argument is an operand, to judge from what follows it. -/
def isOperand (after : List Chars) : Bool :=
  match after with
  | [] => true
  | [_] => false
  | sign :: _ :: _ => Operator.of? sign == some .binary

/-- The operator that stands here. -/
def operatorAt (arguments : List Chars) : Option Operator :=
  match arguments with
  | [] => none
  | sign :: after =>
    match Operator.of? sign with
    | some .unary => if isOperand after then none else some .unary
    | some .opening => if after = [] then none else some .opening
    | found => found

/-- Why arguments make no condition. -/
inductive Fault where
  | notNumber (operand : Chars)
  /-- An operator without its operand. -/
  | noOperand (sign : Chars)
  | unclosed
  /-- What follows the last argument that was used. -/
  | leftOver (last extra : Chars)
  /-- No operator where there are two arguments, with the last of all. -/
  | notUnary (sign last : Chars)
  | notBinary (sign : Chars)
  deriving DecidableEq, Repr

/-- The words for a fault. -/
def Fault.message (reader : Escape.Reader) (fault : Fault) : Chars :=
  /- A reason behind a sign, unless that is empty. -/
  let behind (sign : Chars) (reason : String) : Chars :=
    if sign = [] then chars reason else sign ++ chars (": " ++ reason)
  let quoted (text : Chars) : Chars := '\'' :: text ++ ['\'']
  match fault, reader with
  | notNumber text, .plain => chars "Illegal number: " ++ text
  | notNumber text, .rich => text ++ chars ": integer expression expected"
  | notNumber text, .tool => chars "invalid integer " ++ quoted text
  | noOperand sign, .plain => behind sign "argument expected"
  | noOperand _, .rich => chars "argument expected"
  | noOperand sign, .tool => chars "missing argument after " ++ quoted sign
  | unclosed, .plain => chars "closing paren expected"
  | unclosed, .rich => chars "\x60)' expected"
  | unclosed, .tool => chars "')' expected"
  | leftOver last _, .plain => behind last "unexpected operator"
  | leftOver .., .rich => chars "too many arguments"
  | leftOver _ extra, .tool => chars "extra argument " ++ quoted extra
  | notUnary _ last, .tool => chars "missing argument after " ++ quoted last
  | notUnary sign _, _ => sign ++ chars ": unary operator expected"
  | notBinary sign, .tool => quoted sign ++ chars ": binary operator expected"
  | notBinary sign, _ => sign ++ chars ": binary operator expected"

/-- The number of an operand. -/
def number (operand : Chars) : Except Fault Int :=
  match Number.decimal? operand with
  | some n => .ok n
  | none => .error (.notNumber operand)

/-- A condition on one operand. -/
def unary (s : Session) (sign operand : Chars) : Except Fault Bool :=
  let p := Session.path operand
  let wd := s.directory
  let seen := s.entryOf? operand
  let permits (bits : Nat) : Bool := seen.any (·.permissions.hasAny bits)
  match String.ofList sign with
  | "-z" => .ok operand.isEmpty
  | "-n" => .ok !operand.isEmpty
  | "-t" => if s.rich then .ok false else (number operand).map fun _ => false
  | "-e" | "-O" | "-G" => .ok seen.isSome
  | "-r" => .ok (permits 0o400)
  | "-w" => .ok (permits 0o200)
  | "-x" => .ok (permits 0o100)
  | "-u" => .ok (permits 0o4000)
  | "-g" => .ok (permits 0o2000)
  | "-k" => .ok (permits 0o1000)
  | "-f" => .ok (seen.any Entry.isFile)
  | "-d" => .ok (seen.any Entry.isDirectory)
  | "-p" => .ok (seen = some (.device .pipe))
  | "-c" =>
    .ok (match seen with
      | some (.device kind) => kind ≠ .pipe
      | _ => false)
  | "-s" =>
    .ok (match seen with
      | some (.file contents _) => contents ≠ []
      | some (.directory _) => true
      | _ => false)
  | "-h" | "-L" =>
    .ok ((Session.namedDescriptor? operand).isSome ||
      match (s.files.locateLink wd p).toOption.bind s.files.get? with
      | some (.link _) => true
      | _ => false)
  | _ => .ok false

/-- A condition on two operands. -/
def binary (s : Session) (a sign b : Chars) : Except Fault Bool := do
  let compare (relates : Int → Int → Bool) : Except Fault Bool := do
    return relates (← number a) (← number b)
  match String.ofList sign with
  | "=" | "==" => return a == b
  | "!=" => return a != b
  | "<" => return a < b
  | ">" => return b < a
  | "-eq" => compare (· == ·)
  | "-ne" => compare (· != ·)
  | "-lt" => compare fun m n => m < n
  | "-le" => compare fun m n => m ≤ n
  | "-gt" => compare fun m n => n < m
  | "-ge" => compare fun m n => n ≤ m
  | "-ef" =>
    let places (a : Chars) : List Location :=
      match s.files.locate s.directory (Session.path a) with
      | .ok place => s.files.locationsOf place
      | .error _ => []
    return (places a).any (places b).contains
  | _ => return false

mutual

/-- Conditions of which one must hold. -/
def anyOf (s : Session) (fuel : Nat) (found : Option Operator) (arguments : List Chars) :
    Except Fault (Bool × List Chars) :=
  match fuel with
  | 0 => .ok (false, [])
  | fuel + 1 => do
    let (first, last) ← allOf s fuel found arguments
    if operatorAt last.tail = some .or then
      let (more, last) ← anyOf s fuel (operatorAt (last.drop 2)) (last.drop 2)
      return (first || more, last)
    else return (first, last)

/-- Conditions that must all hold. -/
def allOf (s : Session) (fuel : Nat) (found : Option Operator) (arguments : List Chars) :
    Except Fault (Bool × List Chars) :=
  match fuel with
  | 0 => .ok (false, [])
  | fuel + 1 => do
    let (first, last) ← negated s fuel found arguments
    if operatorAt last.tail = some .and then
      let (more, last) ← allOf s fuel (operatorAt (last.drop 2)) (last.drop 2)
      return (first && more, last)
    else return (first, last)

/-- A condition that may be negated. -/
def negated (s : Session) (fuel : Nat) (found : Option Operator) (arguments : List Chars) :
    Except Fault (Bool × List Chars) :=
  match fuel with
  | 0 => .ok (false, [])
  | fuel + 1 =>
    if found = some .not then
      match arguments with
      | [_] => .ok (true, arguments)
      | arguments => do
        let (result, last) ← negated s fuel (operatorAt arguments.tail) arguments.tail
        return (!result, last)
    else single s fuel found arguments

/-- One condition. -/
def single (s : Session) (fuel : Nat) (found : Option Operator) (arguments : List Chars) :
    Except Fault (Bool × List Chars) :=
  match fuel, arguments with
  | 0, _ => .ok (false, [])
  | _, [] => .ok (false, [])
  | fuel + 1, first :: after =>
    match found with
    | some .opening =>
      if operatorAt after = some .closing then .ok (false, after)
      else do
        let (result, last) ← anyOf s fuel (operatorAt after) after
        if operatorAt last.tail = some .closing then return (result, last.tail)
        else throw .unclosed
    | some .unary =>
      match after with
      | [] => .error (.noOperand first)
      | operand :: _ => do return (← unary s first operand, after)
    | _ =>
      match operatorAt after, after with
      | some .binary, sign :: b :: rest => do return (← binary s first sign b, b :: rest)
      | some .binary, sign :: [] => .error (.noOperand sign)
      | _, _ => .ok (!first.isEmpty, arguments)

end

/-- The condition of all arguments, where `found` is the operator that the first one is taken for. -/
def whole (s : Session) (found : Option Operator) (arguments : List Chars) : Except Fault Bool := do
  let (result, last) ← anyOf s (4 * arguments.length + 4) found arguments
  match last with
  | last :: extra :: _ => throw (.leftOver last extra)
  | _ => return result

/-- Whether the condition that the arguments make holds, or why they make none. -/
def holds (s : Session) : List Chars → Except Fault Bool
  | [] => .ok false
  | [a, sign, b] =>
    if Operator.of? sign = some .binary then whole s none [a, sign, b]
    else if a = ['('] ∧ b = [')'] then whole s (operatorAt [sign]) [sign]
    else if a = ['!'] then (whole s (operatorAt [sign, b]) [sign, b]).map (!·)
    else whole s (operatorAt [a, sign, b]) [a, sign, b]
  | [a, b, c, d] =>
    if a = ['('] ∧ d = [')'] then whole s (operatorAt [b, c]) [b, c]
    else if a = ['!'] then (holds s [b, c, d]).map (!·)
    else whole s (operatorAt [a, b, c, d]) [a, b, c, d]
  | arguments => whole s (operatorAt arguments) arguments

/-- A condition on two operands, where a file that is there counts as newer than one that is not. -/
def binaryByAge (s : Session) (a sign b : Chars) : Except Fault Bool :=
  let known (name : Chars) : Bool := (s.entryOf? name).isSome
  match String.ofList sign with
  | "-nt" => .ok (known a && !known b)
  | "-ot" => .ok (!known a && known b)
  | _ => binary s a sign b

/-- Whether the condition of two arguments holds, as it is judged by their number. -/
def holdsOfTwo (s : Session) (a b last : Chars) : Except Fault Bool :=
  if a = ['!'] then .ok b.isEmpty
  else if s.rich && a = chars "-v" then .ok (s.stored? b).isSome
  else if Operator.of? a = some .unary then unary s a b
  else .error (.notUnary a last)

/-- Whether the condition of three arguments holds, as it is judged by their number. -/
def holdsOfThree (s : Session) (a sign b : Chars) : Except Fault Bool :=
  match if sign = chars "==" then some .binary else Operator.of? sign with
  | some .binary => binaryByAge s a sign b
  | some .and => .ok (!a.isEmpty && !b.isEmpty)
  | some .or => .ok (!a.isEmpty || !b.isEmpty)
  | _ =>
    if a = ['!'] then (holdsOfTwo s sign b b).map (!·)
    else if a = ['('] ∧ b = [')'] then .ok (!sign.isEmpty)
    else .error (.notBinary sign)

/-- Whether the condition that the arguments make holds, where up to four of them are judged by their
number. -/
def holdsCounted (s : Session) : List Chars → Except Fault Bool
  | [] => .ok false
  | [a] => .ok (!a.isEmpty)
  | [a, b] => holdsOfTwo s a b b
  | [a, sign, b] => holdsOfThree s a sign b
  | [a, b, c, d] =>
    if a = ['!'] then (holdsOfThree s b c d).map (!·)
    else if a = ['('] ∧ d = [')'] then holdsOfTwo s b c d
    else whole s (operatorAt [a, b, c, d]) [a, b, c, d]
  | arguments => whole s (operatorAt arguments) arguments

end ConsumerCheck.Shell.Condition
