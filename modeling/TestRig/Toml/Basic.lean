/-
  TestRig.Toml.Basic

  TOML values, and the tree of tables that a document builds up line by line.  The
  tree remembers how each table came about, because that decides which later lines
  may add to it.
-/

namespace TestRig.Toml

/-- A TOML value.  Floats and dates are kept as written, since nothing here computes with them. -/
inductive Value where
  | string (text : String)
  | integer (value : Int)
  | float (text : String)
  | boolean (value : Bool)
  | datetime (text : String)
  | array (items : List Value)
  | table (entries : List (String × Value))

/-- A document: the entries of its root table. -/
abbrev Table := List (String × Value)

/-! ## Tables under construction -/

/-- How a table came about. -/
inductive Origin where
  /-- A header names it. -/
  | header
  /-- A header names a table below it. -/
  | onTheWay
  /-- The dotted key of an entry leads through it. -/
  | dotted
  deriving DecidableEq

/-- What stands under a key. -/
inductive Node where
  /-- A value, to which nothing can be added. -/
  | closed (value : Value)
  | table (origin : Origin) (entries : List (String × Node))
  /-- An array whose tables have headers, the last one first. -/
  | tables (items : List (List (String × Node)))

/-- Entries under construction. -/
abbrev Entries := List (String × Node)

mutual

/-- The value that a node has become. -/
def Node.toValue : Node → Value
  | .closed value => value
  | .table _ entries => .table (entriesToTable entries)
  | .tables items => .array (itemsToValues items).reverse

/-- The table that entries have become. -/
def entriesToTable : List (String × Node) → List (String × Value)
  | [] => []
  | (key, node) :: rest => (key, node.toValue) :: entriesToTable rest

/-- The tables that the items of an array have become. -/
def itemsToValues : List (List (String × Node)) → List Value
  | [] => []
  | entries :: rest => .table (entriesToTable entries) :: itemsToValues rest

end

namespace Entries

/-- Puts a node under a key, in the place of the one that may be there. -/
def set (key : String) (node : Node) : Entries → Entries
  | [] => [(key, node)]
  | (k, n) :: rest => if k = key then (key, node) :: rest else (k, n) :: set key node rest

/-- Changes the entries that a header's keys lead to.  Tables that are missing come about on the
way; of an array the last table is meant. -/
def alongHeader (change : Entries → Option Entries) : List String → Entries → Option Entries
  | [], entries => change entries
  | key :: rest, entries =>
    match entries.lookup key with
    | none => do
      let below ← alongHeader change rest []
      some (set key (.table .onTheWay below) entries)
    | some (.table origin below) => do
      let below ← alongHeader change rest below
      some (set key (.table origin below) entries)
    | some (.tables (last :: earlier)) => do
      let last ← alongHeader change rest last
      some (set key (.tables (last :: earlier)) entries)
    | some _ => none

/-- Opens the table of a header.  It must be new, or have come about on the way to another. -/
def openTable (key : String) (entries : Entries) : Option Entries :=
  match entries.lookup key with
  | none => some (set key (.table .header []) entries)
  | some (.table .onTheWay below) => some (set key (.table .header below) entries)
  | some _ => none

/-- Opens another table of an array. -/
def openItem (key : String) (entries : Entries) : Option Entries :=
  match entries.lookup key with
  | none => some (set key (.tables [[]]) entries)
  | some (.tables items) => some (set key (.tables ([] :: items)) entries)
  | some _ => none

/-- Adds an entry under a dotted key.  The tables along the key must be new or have come about
through other dotted keys; the key itself must be new. -/
def add (value : Value) : List String → Entries → Option Entries
  | [], _ => none
  | [key], entries =>
    match entries.lookup key with
    | none => some (set key (.closed value) entries)
    | some _ => none
  | key :: rest, entries =>
    match entries.lookup key with
    | none => do
      let below ← add value rest []
      some (set key (.table .dotted below) entries)
    | some (.table origin below) =>
      if origin = .dotted ∨ (origin = .onTheWay ∧ rest.length > 1) then do
        let below ← add value rest below
        some (set key (.table origin below) entries)
      else none
    | some _ => none

end Entries

end TestRig.Toml
