import ConsumerCheck.Shell.Builtin.Variables
import ConsumerCheck.Shell.ParameterForm

/-!
# Declarations of the richer shell

* `Builtin.declare` — variables with their marks;
* `Builtin.markRichly`, `Builtin.localRichly`, `Builtin.unsetRichly` — `export`, `readonly`, `local` and
  `unset` as the richer shell has them;
* `Builtin.letAll` — expressions, one after the other;
* `Builtin.shopt` — habits of the shell.
-/

namespace ConsumerCheck.Shell.Builtin

/-- A text between double quotes, so that the shell can read it again. -/
def doubleQuoted (text : Chars) : Chars :=
  if needsEscapes text then escaped text
  else
    '"' :: (text.flatMap fun c => if c = '"' ∨ c = '$' ∨ c = '\\' ∨ c = '\x60' then ['\\', c] else [c]) ++ ['"']

/-- A variable as a line that the richer shell can read again. -/
def declarationLine (name : Chars) (v : Variable) : Chars :=
  let marks := [('a', v.others.isSome), ('r', v.readonly), ('x', v.exported)].filterMap fun (c, given) =>
    if given then some c else none
  let start := chars "declare -" ++ (if marks.isEmpty then ['-'] else marks) ++ ' ' :: name
  match v.others, v.value with
  | some _, _ =>
    let one (entry : Nat × Chars) : Chars :=
      chars ("[" ++ toString entry.1 ++ "]=") ++ doubleQuoted entry.2
    start ++ chars "=(" ++ [' '].intercalate (v.values.map one) ++ [')']
  | none, some value => start ++ '=' :: doubleQuoted value
  | none, none => start

/-- What a declaration asks for. -/
structure Marking where
  /-- The letters that are switched on, and those that are switched off. -/
  on : List Char
  off : List Char

/-- The letters of a declaration, and the arguments after them. -/
def markingOf (known : List Char) (name : Chars) : List Chars → Marking → Action (Marking × List Chars)
  | [], m => return (m, [])
  | argument :: rest, m =>
    let checked (sign : Char) (letters : Chars) : Action Unit :=
      match letters.find? fun c => !known.contains c with
      | none => pure ()
      | some c =>
        let (_, text) := (OptionFault.unknown c).messages name
        Action.failWith [] (sign :: text.tail) 2
    match argument with
    | ['-', '-'] => return (m, rest)
    | '-' :: c :: cs => do
      checked '-' (c :: cs)
      markingOf known name rest { m with on := m.on ++ c :: cs }
    | '+' :: c :: cs => do
      checked '+' (c :: cs)
      markingOf known name rest { m with off := m.off ++ c :: cs }
    | _ => return (m, argument :: rest)

/-- Whether a variable cannot be set. -/
def isFixedVariable (s : Session) (name : Chars) : Bool := (s.bindings.lookup name).any (·.readonly)

/-- A value after the marks of a declaration have changed it. -/
def markedValue (m : Marking) (value : Chars) : Action Chars :=
  if m.on.contains 'i' then calculate value
  else return if m.on.contains 'u' then value.map Char.toUpper
    else if m.on.contains 'l' then value.map Char.toLower else value

/-- The name of an argument, the subscript that follows it, and the value. -/
def nameKeyAndValue (argument : Chars) : Chars × Option Chars × Option Chars :=
  let (target, value) := nameAndValue argument
  match target.span (· != '[') with
  | (name, '[' :: inside) =>
    if inside.getLast? = some ']' then (name, some inside.dropLast, value) else (target, none, value)
  | _ => (target, none, value)

/-- Sets a variable of a declaration, and its marks. -/
def declareOne (m : Marking) (own : Bool) (prefixed : Bool) (argument : Chars) : Action Nat := do
  let (name, key, value) := nameKeyAndValue argument
  if !isName name then
    Action.complain ('\x60' :: argument ++ chars "': not a valid identifier")
    return 1
  else
    let s ← get
    if isFixedVariable s name && (value.isSome || own) then
      let complaint := Action.complain (name ++ chars ": readonly variable")
      if prefixed then complaint else Action.outsideCommand complaint
      return 1
    else
      if own then
        modify fun s =>
          match s.saved with
          | frame :: outer =>
            if frame.bindings.any (·.1 = name) then s
            else
              { s with
                saved := { frame with bindings := (name, s.bindings.lookup name) :: frame.bindings } :: outer
                bindings := s.bindings.filter (·.1 ≠ name) }
          | [] => s
      match value with
      | some value => assignTo name key (← markedValue m value)
      | none => pure ()
      let v := ((← get).bindings.lookup name).getD (.ofValue none false false)
      let asList := m.on.contains 'a' && v.others.isNone
      modify (·.withVariable name
        { v with
          exported := (v.exported || m.on.contains 'x') && !m.off.contains 'x'
          readonly := v.readonly || m.on.contains 'r'
          others := if asList then some [] else v.others })
      return 0

/-- Shows variables. -/
def showVariables (complains : Bool) (names : List Chars) : Action Nat := do
  let found ← names.mapM fun name => do
    match (← get).bindings.lookup name with
    | some v => do
      Action.sayLine (declarationLine name v)
      return true
    | none => do
      if complains then Action.complain (name ++ chars ": not found")
      return false
  return if found.all id then 0 else 1

/-- The greatest of several results. -/
def worst (results : List Nat) : Nat := results.foldl max 0

/-- The command `declare`. In a function it makes the variables the function's own. -/
def declare (name : Chars) (arguments : List Chars) : Action Nat := do
  let (m, names) ← markingOf "aAfFgiIlnrtuxp".toList name arguments ⟨[], []⟩
  let s ← get
  if m.on.contains 'f' || m.on.contains 'F' then
    let known ← names.mapM fun name => do
      if (s.functions.lookup name).isSome then
        if m.on.contains 'F' then Action.sayLine name
        return true
      else return false
    return if known.all id then 0 else 1
  else if m.on.contains 'p' && !names.isEmpty then showVariables true names
  else if names.isEmpty then
    let wanted (v : Variable) : Bool :=
      (!m.on.contains 'r' || v.readonly) && (!m.on.contains 'x' || v.exported) &&
        (!m.on.contains 'a' || v.others.isSome)
    (byName (s.bindings.filter fun (_, v) => wanted v)).forM fun (name, v) =>
      Action.sayLine (declarationLine name v)
    return 0
  else
    let own := 0 < s.calls && !m.on.contains 'g'
    return worst (← names.mapM (declareOne m own true))

/-- The command `local` in the richer shell. -/
def localRichly (arguments : List Chars) : Action Nat := do
  if (← get).calls = 0 then Action.failWith [] (chars "can only be used in a function") 1
  else
    let (m, names) ← markingOf "aAfFgiIlnrtuxp".toList (chars "local") arguments ⟨[], []⟩
    let names ← names.filterM fun name => do
      if name = ['-'] then
        makeLocal false name
        return false
      else return true
    return worst (← names.mapM (declareOne m true true))

/-- The commands `export` and `readonly` in the richer shell. -/
def markRichly (name : Chars) (arguments : List Chars) : Action Nat := do
  let readonly := name = chars "readonly"
  let (found, names) ← options (if readonly then "aAfp" else "fnp") arguments
  let s ← get
  if has found 'f' then
    match names.find? fun name => (s.functions.lookup name).isNone with
    | none => return 0
    | some name => do
      Action.complain (name ++ chars ": not a function")
      return 1
  else if names.isEmpty then
    (byName (s.bindings.filter fun (_, v) => if readonly then v.readonly else v.exported)).forM fun (n, v) =>
      Action.sayLine (declarationLine n v)
    return 0
  else
    let m : Marking := if readonly then ⟨['r'], []⟩ else if has found 'n' then ⟨[], ['x']⟩ else ⟨['x'], []⟩
    return worst (← names.mapM (declareOne m false false))

/-- The command `unset` in the richer shell. -/
def unsetRichly (arguments : List Chars) : Action Nat := do
  let (found, names) ← options "fnv" arguments
  let results ← names.mapM fun argument => do
    let (name, key, _) := nameKeyAndValue argument
    let s ← get
    let known := s.bindings.lookup name
    if has found 'f' || (!has found 'v' && known.isNone) then
      set { s with functions := s.functions.filter (·.1 ≠ name) }
      return 0
    else if isFixedVariable s name then
      Action.complain (name ++ chars ": cannot unset: readonly variable")
      return 1
    else
      match key, known with
      | some key, some v => do
        if key = ['@'] ∨ key = ['*'] then modify (·.withoutVariable name)
        else
          let place ← placeIn key
          if place = 0 then modify (·.withVariable name { v with value := none })
          else modify (·.withVariable name { v with others := v.others.map (·.filter fun e => e.1 ≠ place.toNat) })
        return 0
      | _, _ => do
        modify fun s =>
          let s := s.withoutVariable name
          { s with bindings := s.bindings.filter (·.1 ≠ name) }
        return 0
  return worst results

/-- The command `let`. -/
def letAll (arguments : List Chars) : Action Nat :=
  if arguments.isEmpty then do
    Action.complain (chars "expression expected")
    return 1
  else go 0 arguments
where
  /-- The expressions that are left, where the last one had this value. -/
  go (last : Int64) : List Chars → Action Nat
    | [] => return if last = 0 then 1 else 0
    | expression :: rest => do
      match ← calculateRichly expression with
      | .ok n => go n rest
      | .error text => do
        Action.complain text
        return 1

/-- The command `shopt`. -/
def shopt (arguments : List Chars) : Action Nat := do
  let (found, names) ← options "pqsuo" arguments
  let s ← get
  let holds (name : String) : Bool := Mode.hasHabit s.modes name
  let line (name : String) : Action Unit :=
    let state := if holds name then "on" else "off"
    Action.sayLine (chars (
      if has found 'p' then "shopt " ++ (if holds name then "-s " else "-u ") ++ name
      else name ++ String.ofList (List.replicate (15 - name.length) ' ') ++ "\t" ++ state))
  if names.isEmpty then
    let listed := (Mode.habits.map (·.1)).filter fun name =>
      (!has found 's' || holds name) && (!has found 'u' || !holds name)
    if !has found 'q' then listed.forM line
    return 0
  else
    let results ← names.mapM fun text => do
      let name := String.ofList text
      match Mode.habits.lookup name with
      | none => do
        Action.complain (text ++ chars ": invalid shell option name")
        return 1
      | some usual => do
        if has found 's' || has found 'u' then
          switch (.habit name) (has found 's' != usual)
          return 0
        else
          if !has found 'q' then line name
          return if holds name then 0 else 1
    return worst results

end ConsumerCheck.Shell.Builtin
