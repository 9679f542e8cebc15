import CiFront.Toml.Value
/-!
# Assembling the tables of a TOML document

Entries and headers name tables by paths, and each table may be described only once: a header opens a
table that no header or dotted key has described, a dotted key goes only through tables that dotted keys
made, and neither goes through a value. A header in double brackets opens one more table in a list of
tables; paths through the list mean its last table.
-/

namespace CiFront.Toml

/-- What made a table: a header or braces of its own, a header below it, or a dotted key. -/
inductive Origin where
  | written
  | implied
  | dotted
  deriving DecidableEq, Repr

/-- What stands at a key while a document is read. -/
inductive Node where
  | leaf (value : Value)
  | table (origin : Origin) (entries : List (String × Node))
  /-- A list of tables opened by headers, the last one first. -/
  | tables (items : List (List (String × Node)))

/-- The entries of a table that is being read. -/
abbrev Entries := List (String × Node)

namespace Entries

/-- Puts another node at a key. -/
def replace (entries : Entries) (key : String) (node : Node) : Entries :=
  entries.map fun entry => if entry.1 = key then (key, node) else entry

/-- Puts another node at a key, and the key after all others. -/
def replaceLast (entries : Entries) (key : String) (node : Node) : Entries :=
  entries.filter (fun entry => entry.1 ≠ key) ++ [(key, node)]

end Entries

/-- A table that is being read: what made it, and its entries. -/
structure Draft where
  origin : Origin
  entries : Entries

namespace Draft

/-- The table of a document before anything is read. -/
def empty : Draft := ⟨.written, []⟩

/-- Changes the table at a path below a table. Tables that are not there yet are made, by a dotted key or
by a header as `dotted` says. -/
def alter (dotted : Bool) (change : Draft → Option Draft) : List String → Draft → Option Draft
  | [], draft => change draft
  | key :: path, draft =>
    match draft.entries.lookup key with
    | none => do
      let made ← alter dotted change path ⟨if dotted then .dotted else .implied, []⟩
      pure ⟨draft.origin, draft.entries ++ [(key, .table made.origin made.entries)]⟩
    | some (.table origin entries) =>
      if dotted ∧ origin = .written then none
      else do
        let changed ← alter dotted change path ⟨origin, entries⟩
        pure ⟨draft.origin, draft.entries.replace key (.table changed.origin changed.entries)⟩
    | some (.tables (last :: earlier)) => do
      let changed ← alter dotted change path ⟨.written, last⟩
      pure ⟨draft.origin, draft.entries.replace key (.tables (changed.entries :: earlier))⟩
    | some (.tables []) => none
    | some (.leaf _) => none

/-- Adds a value under a key path. The table it goes to must have been made by dotted keys if the path is
dotted, and must not if it is a single key. -/
def addEntry (path : List String) (key : String) (value : Value) : Draft → Option Draft :=
  alter true (fun draft =>
    if (draft.origin = .dotted) = (path = []) then none
    else match draft.entries.lookup key with
      | some _ => none
      | none => some ⟨draft.origin, draft.entries ++ [(key, .leaf value)]⟩) path

/-- Opens a table under a header's path. A table that headers below it have implied takes its place in the
order of entries only now. -/
def openTable (path : List String) (key : String) : Draft → Option Draft :=
  alter false (fun draft =>
    match draft.entries.lookup key with
    | none => some ⟨draft.origin, draft.entries ++ [(key, .table .written [])]⟩
    | some (.table .implied entries) =>
      some ⟨draft.origin, draft.entries.replaceLast key (.table .written entries)⟩
    | some _ => none) path

/-- Opens one more table in the list of tables under a header's path. -/
def openListed (path : List String) (key : String) : Draft → Option Draft :=
  alter false (fun draft =>
    match draft.entries.lookup key with
    | none => some ⟨draft.origin, draft.entries ++ [(key, .tables [[]])]⟩
    | some (.tables items) => some ⟨draft.origin, draft.entries.replace key (.tables ([] :: items))⟩
    | some _ => none) path

end Draft

mutual

/-- The value of a node once the document is read. -/
def Node.value : Node → Value
  | .leaf value => value
  | .table _ entries => .table (entriesValue entries)
  | .tables items => .list (tablesValue items).reverse

/-- The entries of a table once the document is read. -/
def entriesValue : List (String × Node) → Table
  | [] => []
  | (key, node) :: rest => (key, node.value) :: entriesValue rest

/-- The tables of a list once the document is read, the last one first. -/
def tablesValue : List (List (String × Node)) → List Value
  | [] => []
  | entries :: rest => .table (entriesValue entries) :: tablesValue rest

end

end CiFront.Toml
