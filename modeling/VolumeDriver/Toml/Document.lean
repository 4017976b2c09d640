set_option autoImplicit false

/-! # Tables under construction

A TOML text builds its tables piece by piece: headers open tables, keys with dots open tables on the way,
and both may come back to what was opened before, within rules. `Node` remembers of each table how it
was opened, because that decides who may add to it: a table has one header at most, and keys with dots
add only to tables that keys with dots opened. Values between braces are closed once they are read. -/

namespace VolumeDriver.Toml

/-- A value. -/
inductive Value
  | text (s : String)
  | flag (b : Bool)
  /-- an integer or a floating-point number -/
  | number
  /-- a date, a time or both -/
  | moment
  | list (items : List Value)
  | table (members : List (String × Value))
  deriving Repr

/-- How a table was opened. -/
inductive Opening
  /-- by a header -/
  | header
  /-- on the way to the table of a header -/
  | onTheWay
  /-- by a key with dots -/
  | dotted
  deriving DecidableEq, Repr

/-- A `Value`, or a table that can still be added to. -/
inductive Node
  | value (v : Value)
  | table (opening : Opening) (members : List (String × Node))
  /-- a list of tables, each opened by a header of its own -/
  | tables (items : List (List (String × Node)))
  deriving Repr

/-- A table's members under construction. -/
abbrev Members : Type := List (String × Node)

mutual

/-- The `Value` that was built. -/
def Node.finish : Node → Value
  | .value v => v
  | .table _ members => .table (finishMembers members)
  | .tables items => .list (finishTables items)

/-- The members that were built, by `Node.finish`. -/
def finishMembers : List (String × Node) → List (String × Value)
  | [] => []
  | (key, node) :: rest => (key, node.finish) :: finishMembers rest

/-- The tables that were built. -/
def finishTables : List (List (String × Node)) → List Value
  | [] => []
  | members :: rest => .table (finishMembers members) :: finishTables rest

end

namespace Members

/-- The members with a key set to a node. -/
def set (key : String) (node : Node) : Members → Members
  | [] => [(key, node)]
  | (k, n) :: rest => if k = key then (k, node) :: rest else (k, n) :: set key node rest

/-- The last of some tables changed by `f`. -/
def changeLast (f : Members → Option Members) (items : List Members) : Option (List Members) :=
  match items.getLast? with
  | none => none
  | some last => (f last).map fun last => items.dropLast ++ [last]

/-- Changes the members of the table at the end of a path of headers, and opens tables on the way. -/
def within (f : Members → Option Members) : (path : List String) → Members → Option Members
  | [], members => f members
  | key :: path, members => do
    match members.lookup key with
    | none => return set key (.table .onTheWay (← within f path [])) members
    | some (.table opening inner) => return set key (.table opening (← within f path inner)) members
    | some (.tables items) =>
      return set key (.tables (← changeLast (within f path) items)) members
    | some (.value _) => none

/-- Opens the table of a header, which may have been opened on the way to another one
    (`Opening.onTheWay`). -/
def openTable (key : String) (members : Members) : Option Members :=
  match members.lookup key with
  | none => some (set key (.table .header []) members)
  | some (.table .onTheWay inner) => some (set key (.table .header inner) members)
  | some _ => none

/-- Opens one more table of a list. -/
def openItem (key : String) (members : Members) : Option Members :=
  match members.lookup key with
  | none => some (set key (.tables [[]]) members)
  | some (.tables items) => some (set key (.tables (items ++ [[]])) members)
  | some _ => none

/-- Adds a value at a key with dots. `mayEnd` tells whether the key may end in this table. -/
def add (v : Value) (mayEnd : Bool) : (path : List String) → (key : String) → Members → Option Members
  | [], key, members =>
    if mayEnd ∧ (members.lookup key).isNone then some (members ++ [(key, .value v)]) else none
  | part :: path, key, members => do
    match members.lookup part with
    | none => return set part (.table .dotted (← add v true path key [])) members
    | some (.table .header _) => none
    | some (.table opening inner) =>
      return set part (.table opening (← add v (opening = .dotted) path key inner)) members
    | some (.tables items) =>
      return set part (.tables (← changeLast (add v false path key) items)) members
    | some (.value _) => none

end Members

end VolumeDriver.Toml
