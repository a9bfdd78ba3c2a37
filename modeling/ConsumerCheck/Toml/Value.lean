/-!
# TOML values

The values of `toml`, and what it keeps of them while it reads.

* `Value` — what a key stands for. The value of a floating-point number is not kept, only that it is one;
* `Node` — a value while the document is read, when it still matters how a table came about.
-/

namespace ConsumerCheck.Toml

/-- What a key stands for. -/
inductive Value where
  | string (text : String)
  | integer (n : Int)
  | float
  | boolean (b : Bool)
  /-- A date, a time, or both, in its normal form. -/
  | dateTime (text : String)
  | array (items : List Value)
  | table (members : List (String × Value))
  deriving Repr, Inhabited

/-- How a table came about. -/
inductive Origin where
  /-- By a header of its own, or between braces. -/
  | defined
  /-- On the way of a header to a table below it. -/
  | passed
  /-- On the way of a dotted key. -/
  | dotted
  deriving DecidableEq, Repr

/-- A value while the document is read. -/
inductive Node where
  | value (v : Value)
  | table (origin : Origin) (members : List (String × Node))
  /-- The tables of an array that headers fill, the last one first. -/
  | tables (last : List (String × Node)) (before : List (List (String × Node)))
  deriving Inhabited

/-- A table while the document is read. -/
structure OpenTable where
  origin : Origin
  members : List (String × Node)

namespace OpenTable

/-- A table without members that was defined. -/
def empty : OpenTable := ⟨.defined, []⟩

/-- The member of a key. -/
def get? (t : OpenTable) (key : String) : Option Node := t.members.lookup key

/-- The table without the member of a key. -/
def erase (t : OpenTable) (key : String) : OpenTable :=
  { t with members := t.members.filter (·.1 != key) }

/-- The table with the member of a key set. -/
def put (t : OpenTable) (key : String) (node : Node) : OpenTable :=
  { t with members := (t.erase key).members ++ [(key, node)] }

/-- Changes the table that a path leads to, where tables that are missing on the way are made. A path leads
through an array of tables to its last one, and through no other value. A dotted path does not lead
through a table that was defined. -/
def modifyAt (isDotted : Bool) (change : OpenTable → Option (α × OpenTable)) :
    List String → OpenTable → Option (α × OpenTable)
  | [], t => change t
  | key :: path, t =>
    match t.get? key with
    | none => do
      let (a, child) ← modifyAt isDotted change path ⟨if isDotted then .dotted else .passed, []⟩
      return (a, t.put key (.table child.origin child.members))
    | some (.value _) => none
    | some (.tables last before) => do
      let (a, child) ← modifyAt isDotted change path ⟨.defined, last⟩
      return (a, t.put key (.tables child.members before))
    | some (.table origin members) =>
      if isDotted && origin == .defined then none
      else do
        let (a, child) ← modifyAt isDotted change path ⟨origin, members⟩
        return (a, t.put key (.table child.origin child.members))

/-- The table with a value for a key, which must be new. A dotted key must not lead to a table that a header
made, and a plain key must not stand in a table that a dotted key made. -/
def insert (path : List String) (key : String) (v : Value) (t : OpenTable) : Option OpenTable :=
  let add (inner : OpenTable) : Option (Unit × OpenTable) :=
    if (inner.origin == .dotted) == path.isEmpty then none
    else
      match inner.get? key with
      | some _ => none
      | none => some ((), inner.put key (.value v))
  (modifyAt true add path t).map (·.2)

end OpenTable

mutual

/-- The value that a node stands for. -/
def Node.toValue : Node → Value
  | .value v => v
  | .table _ members => .table (membersOf members)
  | .tables last before => .array (tablesOf before [.table (membersOf last)])

/-- The values of members. -/
def membersOf : List (String × Node) → List (String × Value)
  | [] => []
  | (key, node) :: rest => (key, node.toValue) :: membersOf rest

/-- The values of tables, given with the last one first, in front of others. -/
def tablesOf : List (List (String × Node)) → List Value → List Value
  | [], others => others
  | t :: rest, others => tablesOf rest (.table (membersOf t) :: others)

end

end ConsumerCheck.Toml
