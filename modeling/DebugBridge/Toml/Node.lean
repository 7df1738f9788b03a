import DebugBridge.Toml.Value

/-!
# Building tables

The tables of a document are built from its statements one at a time. A table can be defined by a
header once; a table that was only passed through on the way to another can still be defined. What
dotted keys build up can be extended by dotted keys alone, and a value cannot be extended at all.
-/

namespace DebugBridge.Toml

/-- How a table came about. -/
inductive Origin where
  /-- By a header of its own. -/
  | header
  /-- On the way to the table of a header. -/
  | passed
  /-- By a dotted key. -/
  | dotted
  deriving Repr, DecidableEq

/-- What a key stands for while a document is read. -/
inductive Node where
  | value (v : Value)
  | table (origin : Origin) (entries : List (String × Node))
  /-- Tables that are listed under one key, latest first. -/
  | tables (latest : List (String × Node)) (earlier : List (List (String × Node)))
  deriving Inhabited

/-- The keys of a table with what they stand for. -/
abbrev Entries := List (String × Node)

/-- A statement of a document. -/
inductive Statement where
  /-- Gives a value to the last of some dotted keys. -/
  | pair (path : List String) (key : String) (value : Value)
  /-- Opens the table of a header. -/
  | header (path : List String) (key : String)
  /-- Opens one more table under the key of a header. -/
  | listed (path : List String) (key : String)

namespace Entries

/-- Sets what a key stands for. -/
def set (entries : Entries) (key : String) (n : Node) : Entries :=
  match entries with
  | [] => [(key, n)]
  | e :: rest => if e.1 = key then (key, n) :: rest else e :: set rest key n

/-- Gives a value to a key behind a path of dotted keys. Only a table that dotted keys built, or
the table of the header itself, takes the value. -/
def put (key : String) (v : Value) : List String → Bool → Entries → Option Entries
  | [], takes, entries =>
    if takes && (entries.lookup key).isNone then some (entries ++ [(key, .value v)]) else none
  | k :: path, _, entries =>
    match entries.lookup k with
    | none => (put key v path true []).map fun es => set entries k (.table .dotted es)
    | some (.table .dotted es) =>
      (put key v path true es).map fun es => set entries k (.table .dotted es)
    | some (.table .passed es) =>
      (put key v path false es).map fun es => set entries k (.table .passed es)
    | some (.tables latest earlier) =>
      (put key v path false latest).map fun es => set entries k (.tables es earlier)
    | some (.table .header _) | some (.value _) => none

/-- Changes the table at the end of a path of header keys. The way leads through the latest of
listed tables. -/
def alter (change : Entries → Option Entries) : List String → Entries → Option Entries
  | [], entries => change entries
  | k :: path, entries =>
    match entries.lookup k with
    | none => (alter change path []).map fun es => set entries k (.table .passed es)
    | some (.table origin es) =>
      (alter change path es).map fun es => set entries k (.table origin es)
    | some (.tables latest earlier) =>
      (alter change path latest).map fun es => set entries k (.tables es earlier)
    | some (.value _) => none

/-- Defines the table of a header. -/
def define (key : String) (entries : Entries) : Option Entries :=
  match entries.lookup key with
  | none => some (entries.set key (.table .header []))
  | some (.table .passed es) => some (entries.set key (.table .header es))
  | _ => none

/-- Lists one more table under a key. -/
def list (key : String) (entries : Entries) : Option Entries :=
  match entries.lookup key with
  | none => some (entries.set key (.tables [] []))
  | some (.tables latest earlier) => some (entries.set key (.tables [] (latest :: earlier)))
  | _ => none

/-- Carries out a statement. The path is that of the header last seen. -/
def take : Entries × List String → Statement → Option (Entries × List String)
  | (root, here), .pair path key v =>
    (alter (put key v path true) here root).map fun root => (root, here)
  | (root, _), .header path key =>
    (alter (define key) path root).map fun root => (root, path ++ [key])
  | (root, _), .listed path key =>
    (alter (list key) path root).map fun root => (root, path ++ [key])

/-- The entries of a document. -/
def ofStatements? (statements : List Statement) : Option Entries :=
  (statements.foldlM take ([], [])).map Prod.fst

end Entries

mutual

/-- The value that a node has come to be. -/
def Node.toValue : Node → Value
  | .value v => v
  | .table _ entries => .table (members entries)
  | .tables latest earlier => .array (tableValues earlier ++ [.table (members latest)])

/-- The members of a table. -/
def members : List (String × Node) → List (String × Value)
  | [] => []
  | (k, n) :: rest => (k, n.toValue) :: members rest

/-- The tables listed earlier, in the order in which they were listed. -/
def tableValues : List (List (String × Node)) → List Value
  | [] => []
  | es :: rest => tableValues rest ++ [.table (members es)]

end

end DebugBridge.Toml
