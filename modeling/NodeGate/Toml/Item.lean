/-!
# Tables under construction

A document names its tables in any order and piece by piece. An item is what stands under a key so
far, and a table remembers how it came to be, since that decides who may still add to it: a table
with a header of its own is complete after its section, a table that a header only passed through
may get a header later, and a table made by joined keys may be extended by joined keys alone.
-/

namespace NodeGate.Toml

/-- How a table came to be. -/
inductive TableKind where
  /-- By a header of its own. -/
  | explicit
  /-- By a header of a table inside it. -/
  | implied
  /-- By joined keys. -/
  | dotted
  deriving DecidableEq, Repr

/-- What stands under a key. -/
inductive Item where
  | text (value : String)
  | bool (value : Bool)
  | number
  | date
  | array (items : List Item)
  /-- A table written as a value; joined keys inside it make tables of the dotted kind. -/
  | inline (kind : TableKind) (entries : List (String × Item))
  | table (kind : TableKind) (entries : List (String × Item))
  /-- The tables of one repeated header. -/
  | tables (elements : List (List (String × Item)))

/-- The entries of a table, in the order in which they were added. -/
abbrev Entries := List (String × Item)

namespace Entries

/-- What stands under a key. -/
def get? (entries : Entries) (key : String) : Option Item :=
  (entries.find? (·.1 = key)).map (·.2)

/-- The entries with what stands under a key replaced, or added where there is nothing. -/
def set (entries : Entries) (key : String) (item : Item) : Entries :=
  if entries.any (·.1 = key) then
    entries.map fun entry => if entry.1 = key then (key, item) else entry
  else entries ++ [(key, item)]

/-- Change the table at a path, making the tables on the way that are missing. Joined keys make
dotted tables and do not enter one that has a header; headers make implied tables. A repeated
header leads to its latest table. -/
def change (joined : Bool) (act : TableKind → Entries → Option Entries) :
    List String → TableKind → Entries → Option Entries
  | [], kind, entries => act kind entries
  | key :: path, _, entries =>
    match entries.get? key with
    | none => do
      let kind := if joined then .dotted else .implied
      return entries.set key (.table kind (← change joined act path kind []))
    | some (.table kind inner) =>
      if joined ∧ kind = .explicit then none
      else do return entries.set key (.table kind (← change joined act path kind inner))
    | some (.tables elements) =>
      match elements.getLast? with
      | none => none
      | some last => do
        let changed ← change joined act path .explicit last
        return entries.set key (.tables (elements.dropLast ++ [changed]))
    | some _ => none

/-- Change the table at a path of joined keys inside a table written as a value. -/
def changeInline (act : TableKind → Entries → Option Entries) :
    List String → TableKind → Entries → Option Entries
  | [], kind, entries => act kind entries
  | key :: path, _, entries =>
    match entries.get? key with
    | none => do return entries.set key (.inline .dotted (← changeInline act path .dotted []))
    | some (.inline .dotted inner) => do
      return entries.set key (.inline .dotted (← changeInline act path .dotted inner))
    | some _ => none

/-- Add an entry to a table. A dotted table is added to by joined keys and any other by a key
alone, and no key is given twice. -/
def addTo (joined : Bool) (key : String) (item : Item) (kind : TableKind) (entries : Entries) :
    Option Entries :=
  if decide (kind = .dotted) ≠ joined ∨ (entries.get? key).isSome then none
  else some (entries.set key item)

/-- Open a table by its header. -/
def openTable (key : String) (entries : Entries) : Option Entries :=
  match entries.get? key with
  | none => some (entries.set key (.table .explicit []))
  | some (.table .implied inner) => some (entries.set key (.table .explicit inner))
  | some _ => none

/-- Open the next table of a repeated header. -/
def openElement (key : String) (entries : Entries) : Option Entries :=
  match entries.get? key with
  | none => some (entries.set key (.tables [[]]))
  | some (.tables elements) => some (entries.set key (.tables (elements ++ [[]])))
  | some _ => none

end Entries

/-- A document as far as it is read: its entries and the path of the table that statements add
to. -/
structure Draft where
  entries : Entries := []
  current : List String := []

namespace Draft

/-- A path split into the table and the key inside it. -/
def splitPath (path : List String) : Option (List String × String) :=
  path.getLast?.map (path.dropLast, ·)

/-- A statement that gives the item under a path of the current table. -/
def assign (draft : Draft) (path : List String) (item : Item) : Option Draft := do
  let (tables, key) ← splitPath path
  let inCurrent (kind : TableKind) (entries : Entries) : Option Entries :=
    Entries.change true (Entries.addTo (!tables.isEmpty) key item) tables kind entries
  let entries ← Entries.change false inCurrent draft.current .explicit draft.entries
  return { draft with entries }

/-- The header of a table, or of the next table of several. -/
def openHeader (draft : Draft) (repeated : Bool) (path : List String) : Option Draft := do
  let (tables, key) ← splitPath path
  let opening (_ : TableKind) (entries : Entries) : Option Entries :=
    if repeated then Entries.openElement key entries else Entries.openTable key entries
  let entries ← Entries.change false opening tables .explicit draft.entries
  return { entries, current := path }

end Draft

/-- The entries of a table written as a value. -/
def inlineEntries (pairs : List (List String × Item)) : Option Entries :=
  pairs.foldlM
    (fun entries (path, item) => do
      let (tables, key) ← Draft.splitPath path
      Entries.changeInline (Entries.addTo (!tables.isEmpty) key item) tables .explicit entries)
    []

end NodeGate.Toml
