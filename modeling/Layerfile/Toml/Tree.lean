import Layerfile.Config.Value

/-!
The tables of a TOML document while it is read. Headers and dotted keys open tables;
a table that one of them has settled may not be opened again by the other.
-/

namespace Layerfile.Toml

/-- How a table came to be: by its own header, on the way of a longer header, or on the
way of a dotted key. -/
inductive Origin where
  | header
  | implied
  | dotted
deriving DecidableEq, Repr

/-- A value, a table, or an array of tables, of which only the last is still open. -/
inductive Node where
  | value (value : Value)
  | table (origin : Origin) (entries : List (String × Node))
  | tables (closed : List (List (String × Node))) (last : List (String × Node))

abbrev Entries := List (String × Node)

namespace Entries

/-- Sets `key` in the table that the dotted `path` leads to. The path may pass through tables
that no header has opened and ends in a table of dotted keys. -/
def define (key : String) (value : Value) : List String → Entries → Option Entries
  | [], entries =>
    if (entries.lookup key).isSome then none else some (put key (.value value) entries)
  | name :: path, entries =>
    match entries.lookup name with
    | none => (define key value path []).map fun inner => put name (.table .dotted inner) entries
    | some (.table origin inner) =>
      if origin = .header || (path.isEmpty && origin != .dotted) then none
      else (define key value path inner).map fun inner => put name (.table origin inner) entries
    | some (.tables closed last) =>
      if path.isEmpty then none
      else (define key value path last).map fun last => put name (.tables closed last) entries
    | some (.value _) => none

/-- Changes the table at the end of the `path` of a header, opening tables on the way. -/
def descend (change : Entries → Option Entries) : List String → Entries → Option Entries
  | [], entries => change entries
  | name :: path, entries =>
    match entries.lookup name with
    | none => (descend change path []).map fun inner => put name (.table .implied inner) entries
    | some (.table origin inner) =>
      (descend change path inner).map fun inner => put name (.table origin inner) entries
    | some (.tables closed last) =>
      (descend change path last).map fun last => put name (.tables closed last) entries
    | some (.value _) => none

/-- Opens the table of a header, which may have been implied before. -/
def openTable (key : String) (entries : Entries) : Option Entries :=
  match entries.lookup key with
  | none => some (put key (.table .header []) entries)
  | some (.table .implied inner) => some (put key (.table .header inner) entries)
  | some _ => none

def openItem (key : String) (entries : Entries) : Option Entries :=
  match entries.lookup key with
  | none => some (put key (.tables [] []) entries)
  | some (.tables closed last) => some (put key (.tables (closed ++ [last]) []) entries)
  | some _ => none

mutual

def toValues : Entries → List (String × Value)
  | [] => []
  | (name, node) :: entries => (name, nodeValue node) :: toValues entries

def nodeValue : Node → Value
  | .value value => value
  | .table _ entries => .table (toValues entries)
  | .tables closed last => .array (itemValues closed ++ [.table (toValues last)])

def itemValues : List (List (String × Node)) → List Value
  | [] => []
  | item :: items => .table (toValues item) :: itemValues items

end

end Entries

/-- A line of a document. Paths are split into the way and the last key. -/
inductive Statement where
  | header (path : List String) (key : String)
  | item (path : List String) (key : String)
  | pair (path : List String) (key : String) (value : Value)

/-- The document so far and the path of the table that is open. -/
structure Builder where
  root : Entries := []
  current : List String := []

namespace Builder

def step (builder : Builder) : Statement → Option Builder
  | .header path key => do
    let root ← Entries.descend (Entries.openTable key) path builder.root
    return ⟨root, path ++ [key]⟩
  | .item path key => do
    let root ← Entries.descend (Entries.openItem key) path builder.root
    return ⟨root, path ++ [key]⟩
  | .pair path key value => do
    let root ← Entries.descend (Entries.define key value path) builder.current builder.root
    return { builder with root }

/-- The table that statements describe, none if they contradict each other. -/
def build? (statements : List Statement) : Option (List (String × Value)) := do
  let builder ← statements.foldlM step {}
  return builder.root.toValues

end Builder

end Layerfile.Toml
