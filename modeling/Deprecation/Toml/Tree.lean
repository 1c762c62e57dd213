import Deprecation.Toml

/-!
Tables in the making.  A document names its tables by headers and by dotted keys, and what a name
may still mean depends on how the table came to be: a table with a header of its own is finished by
it, a table that headers merely passed through may still get its header, and a table that dotted
keys made may only grow by dotted keys.  Tables in braces are values, and closed.
-/

namespace Deprecation.Toml

/-- How a table came to be. -/
inductive Origin where
  | header
  | passage
  | dotted
deriving DecidableEq, Repr

/-- What a key holds while a document is read. -/
inductive Node where
  | value (value : Toml)
  | table (origin : Origin) (entries : List (String × Node))
  | tables (elements : List (List (String × Node)))

abbrev Entries := List (String × Node)

namespace Entries

/-- Sets an entry: an earlier one of that key gives way. -/
def put (entries : Entries) (key : String) (node : Node) : Entries :=
  if entries.any fun entry => entry.1 == key then
    entries.map fun entry => if entry.1 == key then (key, node) else entry
  else entries ++ [(key, node)]

/-- Changes the table at the end of a path.  Tables that are missing on the way are made, with the
given origin; of several tables under one name the last is meant.  The change is told whether the
table was made by dotted keys.  A path made of dotted keys may not enter a table with a header of
its own, and no path leads through a value. -/
def change (origin : Origin) (edit : Bool → Entries → Option Entries) :
    List String → Bool → Entries → Option Entries
  | [], byDots, entries => edit byDots entries
  | key :: path, _, entries =>
    match entries.lookup key with
    | none => do
      let inner ← change origin edit path (origin == .dotted) []
      return entries.put key (.table origin inner)
    | some (.value _) => none
    | some (.table made inner) =>
      if origin = .dotted ∧ made = .header then none
      else do
        let inner ← change origin edit path (made == .dotted) inner
        return entries.put key (.table made inner)
    | some (.tables elements) => do
      let last ← elements.getLast?
      let last ← change origin edit path false last
      return entries.put key (.tables (elements.dropLast ++ [last]))

/-- Adds a value under a dotted key: the parts before the last one, and the last one.  The table
that gets the value has to be the given one itself or a table made by dotted keys. -/
def addValue (path : List String) (key : String) (value : Toml) (entries : Entries) :
    Option Entries :=
  change .dotted
    (fun byDots entries =>
      if byDots == path.isEmpty then none
      else if (entries.lookup key).isSome then none
      else some (entries ++ [(key, .value value)]))
    path false entries

/-- Adds the table of a header.  A table that headers merely passed through before moves behind the
entries that stand next to it by then. -/
def addTable (path : List String) (key : String) (entries : Entries) : Option Entries :=
  change .passage
    (fun _ entries =>
      match entries.lookup key with
      | none => some (entries ++ [(key, .table .header [])])
      | some (.table .passage inner) =>
        some (entries.filter (fun entry => entry.1 != key) ++ [(key, .table .header inner)])
      | some _ => none)
    path false entries

def addElement (path : List String) (key : String) (entries : Entries) : Option Entries :=
  change .passage
    (fun _ entries =>
      match entries.lookup key with
      | none => some (entries ++ [(key, .tables [[]])])
      | some (.tables elements) => some (entries.put key (.tables (elements ++ [[]])))
      | some _ => none)
    path false entries

def addBelow (header path : List String) (key : String) (value : Toml) (entries : Entries) :
    Option Entries :=
  change .passage (fun _ entries => addValue path key value entries) header false entries

end Entries

mutual

def Node.toToml : Node → Toml
  | .value value => value
  | .table _ entries => .table (entriesToToml entries)
  | .tables elements => .array (elementsToToml elements)

def entriesToToml : List (String × Node) → List (String × Toml)
  | [] => []
  | (key, node) :: rest => (key, node.toToml) :: entriesToToml rest

def elementsToToml : List (List (String × Node)) → List Toml
  | [] => []
  | entries :: rest => .table (entriesToToml entries) :: elementsToToml rest

end

end Deprecation.Toml
