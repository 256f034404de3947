import SchemaPolicy.Toml.Value

/-! Tables in the making. A table is opened by a header, implied by a longer header, or made by a
dotted key, and that decides what may still be added to it. -/

namespace SchemaPolicy.Toml

/-- How a table came about. -/
inductive Origin where
  | header
  /-- By a longer header only; a header of its own may still follow. -/
  | implied
  | dotted
deriving DecidableEq, Repr

/-- What stands under a key of a table in the making. -/
inductive Node where
  /-- A value, which nothing can be added to. -/
  | leaf (value : Value)
  | table (origin : Origin) (entries : List (String × Node))
  /-- An array of tables, each opened by a header; the last one is open. -/
  | tables (items : List (List (String × Node)))
deriving Repr

/-- The entries of a table in the making, in order. -/
abbrev Entries := List (String × Node)

namespace Entries

/-- What stands under a key. -/
def node? (entries : Entries) (key : String) : Option Node :=
  (List.find? (·.1 = key) entries).map Prod.snd

/-- Adds an entry at the end. -/
def push (entries : Entries) (key : String) (node : Node) : Entries := entries ++ [(key, node)]

/-- Puts something else under a key, in its place. -/
def replace (entries : Entries) (key : String) (node : Node) : Entries :=
  entries.map fun entry => if entry.1 = key then (key, node) else entry

/-- Removes the entry of a key. -/
def remove (entries : Entries) (key : String) : Entries := entries.filter (·.1 ≠ key)

/-- Adds a value under a key behind a path of dotted keys. The path may lead through tables without
a header, and has to end in a table made by dotted keys (`isOpen` tells whether it does). -/
def putAt (key : String) (value : Value) : (path : List String) → (isOpen : Bool) → Entries →
    Option Entries
  | [], isOpen, entries =>
    if isOpen && (entries.node? key).isNone then some (entries.push key (.leaf value)) else none
  | step :: path, _, entries =>
    match entries.node? step with
    | none => do return entries.push step (.table .dotted (← putAt key value path true []))
    | some (.table .header _) => none
    | some (.table origin inner) => do
      return entries.replace step
        (.table origin (← putAt key value path (origin == .dotted) inner))
    | some (.tables items) => do
      let last ← items.getLast?
      return entries.replace step
        (.tables (items.dropLast ++ [← putAt key value path false last]))
    | some (.leaf _) => none

/-- Adds a value under a dotted key, of which `key` is the last part. -/
def put (entries : Entries) (path : List String) (key : String) (value : Value) :
    Option Entries :=
  putAt key value path path.isEmpty entries

/-- Changes the table that a path of a header leads to. Tables on the way that do not exist are
implied by the header. -/
def within (change : Entries → Option Entries) : (path : List String) → Entries → Option Entries
  | [], entries => change entries
  | step :: path, entries =>
    match entries.node? step with
    | none => do return entries.push step (.table .implied (← within change path []))
    | some (.table origin inner) => do
      return entries.replace step (.table origin (← within change path inner))
    | some (.tables items) => do
      let last ← items.getLast?
      return entries.replace step (.tables (items.dropLast ++ [← within change path last]))
    | some (.leaf _) => none

/-- Opens a table by a header, and fills it. A table that was implied so far moves to the end. -/
def openTable (key : String) (fill : Entries → Option Entries) (entries : Entries) :
    Option Entries :=
  match entries.node? key with
  | none => do return entries.push key (.table .header (← fill []))
  | some (.table .implied inner) => do
    return (entries.remove key).push key (.table .header (← fill inner))
  | some _ => none

/-- Opens one more table of an array by a header, and fills it. -/
def openItem (key : String) (fill : Entries → Option Entries) (entries : Entries) :
    Option Entries :=
  match entries.node? key with
  | none => do return entries.push key (.tables [← fill []])
  | some (.tables items) => do return entries.replace key (.tables (items ++ [← fill []]))
  | some _ => none

end Entries

mutual

/-- The value that a finished node stands for. -/
def Node.value : Node → Value
  | .leaf value => value
  | .table _ entries => .table (Node.values entries)
  | .tables items => .array (Node.tableValues items)

/-- The entries of a finished table. -/
def Node.values : List (String × Node) → List (String × Value)
  | [] => []
  | (key, node) :: others => (key, node.value) :: Node.values others

/-- The items of a finished array of tables. -/
def Node.tableValues : List (List (String × Node)) → List Value
  | [] => []
  | entries :: others => .table (Node.values entries) :: Node.tableValues others

end

end SchemaPolicy.Toml
