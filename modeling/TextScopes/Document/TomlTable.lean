import TextScopes.Document.Basic

/-!
This module contains the tables of a TOML document while it is read. A table can be written in
several places: under its own heading, under the headings of tables inside it, and by keys with
dots. What was written where decides what may still be added.
-/

namespace TextScopes.Toml

inductive Node where
  | value (document : Document)
  /-- A table. One that has no heading of its own is `implicit`; one that was made by a key with
  dots is `dotted`. -/
  | table (implicit dotted : Bool) (entries : List (String × Node))
  /-- The tables of one heading between double brackets, each with its entries. -/
  | tables (tables : List (List (String × Node)))
  deriving Inhabited

/-- The entries of a table in the order in which they were written. -/
abbrev Entries := List (String × Node)

namespace Entries

/-- Replace the entry of a key, or add it behind all others. -/
def put (key : String) (node : Node) : Entries → Entries
  | [] => [(key, node)]
  | (k, n) :: rest => if k = key then (key, node) :: rest else (k, n) :: put key node rest

/-- Change the table at a path, given a change of entries that is told whether the table is dotted.
Tables on the way that do not exist are made. A path of a key with dots may lead only through tables
without a heading of their own. -/
def modifyAt (dotted : Bool) (change : Bool → Entries → Option Entries) :
    (here : Bool) → (path : List String) → Entries → Option Entries
  | here, [], entries => change here entries
  | _, key :: path, entries =>
    match entries.lookup key with
    | none => do
      let inner ← modifyAt dotted change dotted path []
      some (entries ++ [(key, .table true dotted inner)])
    | some (.value _) => none
    | some (.tables tables) =>
      match tables.reverse with
      | [] => none
      | last :: before => do
        let last ← modifyAt dotted change false path last
        some (entries.put key (.tables (last :: before).reverse))
    | some (.table implicit isDotted inner) =>
      if dotted ∧ ¬ implicit then none
      else do
        let inner ← modifyAt dotted change isDotted path inner
        some (entries.put key (.table implicit isDotted inner))

/-- The entries of a table that stands under a key at a path. -/
def entriesAt (key : String) : (path : List String) → Entries → Entries
  | [], entries =>
    match entries.lookup key with
    | some (.table _ _ inner) => inner
    | _ => []
  | step :: path, entries =>
    match entries.lookup step with
    | some (.table _ _ inner) => entriesAt key path inner
    | some (.tables tables) => entriesAt key path (tables.getLast?.getD [])
    | _ => []

/-- Set the value of a key, which may have dots, in a table. The value must be new, and a key with
dots must end in a table made by such keys. -/
def setValue (path : List String) (key : String) (value : Document) (entries : Entries) :
    Option Entries :=
  modifyAt (!path.isEmpty)
    (fun isDotted inner =>
      if isDotted == path.isEmpty || (inner.lookup key).isSome then none
      else some (inner ++ [(key, .value value)]))
    false path entries

mutual

def documentOf : Node → Document
  | .value document => document
  | .table _ _ entries => .object (membersOf entries)
  | .tables tables => .array (itemsOf tables)
termination_by structural node => node

def membersOf : List (String × Node) → Members
  | [] => .nil
  | entry :: rest => consMember entry (membersOf rest)
termination_by structural entries => entries

def consMember : String × Node → Members → Members
  | (key, node), rest => .cons (.ok key) (documentOf node) rest
termination_by structural entry => entry

def itemsOf : List (List (String × Node)) → Items
  | [] => .nil
  | table :: rest => .cons (.object (membersOf table)) (itemsOf rest)
termination_by structural tables => tables

end

end Entries

/-- The table that is being written: its path, its entries, and whether its heading stands between
double brackets. -/
structure OpenTable where
  path : List String
  entries : Entries
  isArray : Bool

/-- The tables of a document as far as it is read. -/
structure Tables where
  root : Entries
  current : OpenTable

namespace Tables

def initial : Tables := ⟨[], ⟨[], [], false⟩⟩

def finish (t : Tables) : Option Entries :=
  match t.current.path.getLast? with
  | none => some t.current.entries
  | some key =>
    Entries.modifyAt false
      (fun _ parent =>
        if t.current.isArray then
          match parent.lookup key with
          | some (.tables before) =>
            some (Entries.put key (.tables (before ++ [t.current.entries])) parent)
          | _ => none
        else some (parent ++ [(key, .table false false t.current.entries)]))
      false t.current.path.dropLast t.root

/-- Begin a table. It may have been made by tables inside it, but not have a heading already. -/
def openTable (path : List String) (t : Tables) : Option Tables := do
  let key ← path.getLast?
  let root ← t.finish
  let parent := path.dropLast
  let found (entries : Entries) : Option Entries :=
    match entries.lookup key with
    | none => some []
    | some (.table true false inner) => some inner
    | some _ => none
  let root ← Entries.modifyAt false (fun _ entries => (found entries).map fun _ => entries)
    false parent root
  let entries := root.entriesAt key parent
  let root ← Entries.modifyAt false
    (fun _ entries => some (entries.filter fun entry => entry.1 ≠ key)) false parent root
  some ⟨root, path, entries, false⟩

def openArrayTable (path : List String) (t : Tables) : Option Tables := do
  let key ← path.getLast?
  let root ← t.finish
  let root ← Entries.modifyAt false
    (fun _ entries =>
      match entries.lookup key with
      | none => some (entries ++ [(key, .tables [])])
      | some (.tables _) => some entries
      | some _ => none)
    false path.dropLast root
  some ⟨root, path, [], true⟩

/-- Set the value of a key in the table that is being written. -/
def setValue (path : List String) (key : String) (value : Document) (t : Tables) :
    Option Tables := do
  let entries ← t.current.entries.setValue path key value
  some { t with current := { t.current with entries := entries } }

def document? (t : Tables) : Option Document :=
  t.finish.map fun entries => .object (Entries.membersOf entries)

end Tables

end TextScopes.Toml
