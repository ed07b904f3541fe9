import Remedy.Toml.Basic
/-!
# Toml.Table — tables from their keys and headers

A table comes from a header, is implied by a longer header, or comes from a dotted key.  A table has one header; one
that dotted keys have made gets none, and dotted keys add nothing to a table with a header.  Values are never
replaced, and nothing is added to a table written between braces.  A header in double brackets adds a table to an
array, and longer headers mean its newest table.
-/
namespace Remedy.Toml

/-- How a table has come about. -/
inductive Origin
  | header
  | implied
  | dotted
  deriving DecidableEq

/-- **What a key stands for while a document is read**: a value, a table that may grow, or an array of tables, the
newest apart and the others after it, the newest of them first. -/
inductive Item
  | value (v : Toml)
  | table (origin : Origin) (entries : List (String × Item))
  | tables (newest : List (String × Item)) (older : List (List (String × Item)))

/-- A key: the dotted path before its last part, and the last part. -/
structure Key where
  path : List String
  last : String

def Key.parts (k : Key) : List String := k.path ++ [k.last]

mutual

def Item.close : Item → Toml
  | .value v => v
  | .table _ entries => .table (closeEntries entries)
  | .tables newest older => .array (closeTables older ++ [.table (closeEntries newest)])

def closeEntries : List (String × Item) → List (String × Toml)
  | [] => []
  | (key, item) :: rest => (key, item.close) :: closeEntries rest

def closeTables : List (List (String × Item)) → List Toml
  | [] => []
  | entries :: rest => closeTables rest ++ [.table (closeEntries entries)]

end

def item? (key : String) (entries : List (String × Item)) : Option Item := (entries.find? (·.1 == key)).map (·.2)

def putItem (key : String) (item : Item) : List (String × Item) → List (String × Item)
  | [] => [(key, item)]
  | (k, old) :: rest => if k = key then (k, item) :: rest else (k, old) :: putItem key item rest

/-- **Adds a value under a dotted key.** -/
def addValue (key : String) (v : Toml) : List String → List (String × Item) → Option (List (String × Item))
  | [], entries => if (item? key entries).isSome then none else some (putItem key (.value v) entries)
  | k :: path, entries =>
    match item? k entries with
    | none => (addValue key v path []).map fun inner => putItem k (.table .dotted inner) entries
    | some (.value _) => none
    | some (.table origin inner) =>
      -- a dotted key adds nothing to a table with a header of its own, nor directly to one that a header implies
      if origin = .header || (path.isEmpty && origin = .implied) then none
      else (addValue key v path inner).map fun inner => putItem k (.table origin inner) entries
    | some (.tables newest older) =>
      if path.isEmpty then none
      else (addValue key v path newest).map fun newest => putItem k (.tables newest older) entries

/-- Changes the table at the path of a header; tables that are missing on the way are implied. -/
def within (f : List (String × Item) → Option (List (String × Item))) :
    List String → List (String × Item) → Option (List (String × Item))
  | [], entries => f entries
  | k :: path, entries =>
    match item? k entries with
    | none => (within f path []).map fun inner => putItem k (.table .implied inner) entries
    | some (.value _) => none
    | some (.table origin inner) => (within f path inner).map fun inner => putItem k (.table origin inner) entries
    -- a header below an array of tables is about its newest table
    | some (.tables newest older) => (within f path newest).map fun newest => putItem k (.tables newest older) entries

def openTable (key : String) (entries : List (String × Item)) : Option (List (String × Item)) :=
  match item? key entries with
  | none => some (putItem key (.table .header []) entries)
  | some (.table .implied inner) => some (putItem key (.table .header inner) entries)
  | some _ => none

def openNext (key : String) (entries : List (String × Item)) : Option (List (String × Item)) :=
  match item? key entries with
  | none => some (putItem key (.tables [] []) entries)
  | some (.tables newest older) => some (putItem key (.tables [] (newest :: older)) entries)
  | some _ => none

/-- The table between braces with the given keys and values. -/
def ofPairs? (pairs : List (Key × Toml)) : Option Toml :=
  (pairs.foldlM (fun entries p => addValue p.1.last p.2 p.1.path entries) []).map fun entries =>
    .table (closeEntries entries)

/-- **A line of a document**: a key with its value, the header of a table, or the header of the next table of an
array. -/
inductive Statement
  | pair (key : Key) (v : Toml)
  | header (key : Key)
  | next (key : Key)

/-- A document while it is read: its entries, and the path of the last header. -/
structure Draft where
  entries : List (String × Item)
  current : List String

def Draft.add (d : Draft) : Statement → Option Draft
  | .pair k v => (within (addValue k.last v k.path) d.current d.entries).map fun entries => { d with entries }
  | .header k => (within (openTable k.last) k.path d.entries).map fun entries => ⟨entries, k.parts⟩
  | .next k => (within (openNext k.last) k.path d.entries).map fun entries => ⟨entries, k.parts⟩

/-- **The entries of a document with the given lines**, if no key is given twice. -/
def ofStatements? (lines : List Statement) : Option (List (String × Toml)) :=
  (lines.foldlM Draft.add ⟨[], []⟩).map fun d => closeEntries d.entries

end Remedy.Toml
