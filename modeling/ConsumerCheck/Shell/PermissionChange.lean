import ConsumerCheck.FileSystem.Permissions
import ConsumerCheck.Shell.Syntax
import ConsumerCheck.Text.Digits

/-!
# Changes of permissions

A change is written as an octal number, which sets all bits, or as clauses with commas between them. A clause
says whom it is about (`u`, `g`, `o`, `a`), then, any number of times, a sign (`+`, `-`, `=`) and what is
granted, taken away or set: the letters `rwxXst`, or one of `ugo` for what the owner, the group or others have.

* `PermissionChange.ofText?` — the change that a text is;
* `PermissionChange.apply` — permissions after a change;
* `Permissions.letters` — permissions as nine letters.
-/

namespace ConsumerCheck.Shell

/-- Which bits a step of a change is about. -/
inductive Granted where
  | bits
  /-- Those of these bits that are set, for everybody. -/
  | copied
  /-- The bits, and the right to run what is a directory or what somebody may run already. -/
  | runnable
  deriving DecidableEq, Repr

/-- One step of a change of permissions. -/
structure PermissionStep where
  sign : Char
  granted : Granted
  /-- The bits of those whom the step is about; none if it does not say. -/
  affected : Nat
  value : Nat
  /-- The bits that the step names, which count for a directory too. -/
  mentioned : Nat
  deriving Repr

/-- A change of permissions. -/
abbrev PermissionChange := List PermissionStep

namespace PermissionChange

/-- The bits of those for whom a letter stands. -/
def affectedBy : Char → Nat
  | 'u' => 0o4700
  | 'g' => 0o2070
  | 'o' => 0o1007
  | _ => 0o7777

/-- The bits that a letter grants to everybody. -/
def grantedBy : Char → Nat
  | 'r' => 0o444
  | 'w' => 0o222
  | 'x' => 0o111
  | 's' => 0o6000
  | 't' => 0o1000
  | _ => 0

/-- The number that octal digits make, if it is one of permissions. -/
def octal? (digits : Chars) : Option Nat :=
  if digits = [] || !digits.all (Text.isDigitOf 8) then none
  else
    let bits := Text.numeral 8 digits
    if bits ≤ Permissions.every then some bits else none

/-- The steps of a clause after what says whom it is about, and what follows the clause. -/
def steps? (affected : Nat) : Nat → Chars → Option (PermissionChange × Chars)
  | n + 1, sign :: rest =>
    if !"+-=".toList.contains sign then none
    else
      let found : Option (PermissionStep × Chars) := match rest with
        | c :: more =>
          if Text.isDigitOf 8 c then
            let digits := rest.takeWhile (Text.isDigitOf 8)
            let more := rest.drop digits.length
            match octal? digits with
            | some bits =>
              if affected = 0 && (more = [] || more.head? = some ',') then
                some (⟨sign, .bits, Permissions.every, bits, Permissions.every⟩, more)
              else none
            | none => none
          else if "ugo".toList.contains c then
            let value := affectedBy c &&& 0o777
            some (⟨sign, .copied, affected, value, if affected = 0 then value else affected &&& value⟩, more)
          else some (letters sign rest)
        | [] => some (letters sign rest)
      match found with
      | none => none
      | some (step, more) =>
        if more.head?.any "+-=".toList.contains then
          (steps? affected n more).map fun (others, more) => (step :: others, more)
        else some ([step], more)
  | _, _ => none
where
  /-- A step with letters, and what follows. -/
  letters (sign : Char) (rest : Chars) : PermissionStep × Chars :=
    let names := rest.takeWhile "rwxXst".toList.contains
    let value := names.foldl (fun bits c => bits ||| grantedBy c) 0
    (⟨sign, if names.contains 'X' then .runnable else .bits, affected, value,
      if affected = 0 then value else affected &&& value⟩, rest.drop names.length)

/-- The steps of clauses with commas between them. -/
def clauses? : Nat → Chars → Option PermissionChange
  | 0, _ => none
  | n + 1, text =>
    let who := text.takeWhile "ugoa".toList.contains
    let affected := who.foldl (fun bits c => bits ||| affectedBy c) 0
    match steps? affected (text.length + 1) (text.drop who.length) with
    | some (steps, []) => some steps
    | some (steps, ',' :: more) => (clauses? n more).map (steps ++ ·)
    | _ => none

/-- The change that a text is. A number of five digits or more says all about a directory too. -/
def ofText? (text : Chars) : Option PermissionChange :=
  if text.head?.any (Text.isDigitOf 8) then
    (octal? text).map fun bits =>
      let mentioned := if text.length < 5 then (bits &&& 0o6000) ||| 0o1777 else Permissions.every
      [⟨'=', .bits, Permissions.every, bits, mentioned⟩]
  else clauses? (text.length + 1) text

/-- Those of some bits for which others do not stand. -/
def less (bits others : Nat) : Nat := bits &&& (Permissions.every ^^^ (others &&& Permissions.every))

/-- Bits after one step. -/
def PermissionStep.applyTo (isDirectory : Bool) (mask before : Nat) (s : PermissionStep) : Nat :=
  let spared := less (if isDirectory then 0o6000 else 0) s.mentioned
  let everybody (bits : Nat) : Nat := if s.value &&& before &&& bits = 0 then 0 else bits
  let value := match s.granted with
    | .bits => s.value
    | .copied => (s.value &&& before) ||| everybody 0o444 ||| everybody 0o222 ||| everybody 0o111
    | .runnable =>
      if isDirectory || before &&& 0o111 ≠ 0 then s.value ||| 0o111 else s.value
  let value := less (if s.affected = 0 then less value mask else value &&& s.affected) spared
  if s.sign = '+' then before ||| value
  else if s.sign = '-' then less before value
  else
    let preserved := (if s.affected = 0 then 0 else less Permissions.every s.affected) ||| spared
    (before &&& preserved) ||| value

/-- Permissions after a change. If it does not say whom it is about, the bits of the mask stay as they are. -/
def apply (change : PermissionChange) (isDirectory : Bool) (mask : Nat) (before : Permissions) :
    Permissions :=
  ⟨change.foldl (fun bits step => PermissionStep.applyTo isDirectory mask bits step) before.bits⟩

end PermissionChange

end ConsumerCheck.Shell

namespace ConsumerCheck

/-- Permissions as nine letters. -/
def Permissions.letters (p : Permissions) : String :=
  let triple (read write run special : Nat) (both alone : Char) : List Char :=
    [if p.hasAny read then 'r' else '-', if p.hasAny write then 'w' else '-',
      match p.hasAny special, p.hasAny run with
      | true, true => both
      | true, false => alone
      | false, true => 'x'
      | false, false => '-']
  String.ofList (triple 0o400 0o200 0o100 0o4000 's' 'S' ++ triple 0o040 0o020 0o010 0o2000 's' 'S' ++
    triple 0o004 0o002 0o001 0o1000 't' 'T')

/-- Permissions as four octal digits. -/
def Permissions.octal (p : Permissions) : String :=
  let digits := Nat.toDigits 8 p.bits
  String.ofList (List.replicate (4 - digits.length) '0' ++ digits)

end ConsumerCheck
