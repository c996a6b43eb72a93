import SpanCapture.Keyed
import SpanCapture.Toml.Scalar

/-! Tables of configuration text while they are read. Keys with points and headers make
tables on their way; how a table came about decides who may still add to it. -/
namespace SpanCapture.Toml

/-- How a table came to be; it decides who may still add to it. -/
inductive Origin where
  /-- By its own header; the outermost table counts as such. -/
  | header
  /-- On the way of a header of a table inside it. -/
  | passed
  /-- On the way of a key with points. -/
  | dotted
  | braces
  deriving Repr, DecidableEq

/-- What stands under a key. -/
inductive Node where
  | text (s : String)
  | integer (i : Int)
  | float (x : Binary64)
  | bool (b : Bool)
  | moment
  | array (items : List Node)
  | table (origin : Origin) (entries : List (String × Node))
  /-- Tables under one repeated header, last first. -/
  | tables (each : List (List (String × Node)))
  deriving Repr, Inhabited

abbrev Entries := Keyed Node

/-- Who opens the way to a table. -/
inductive Guide where
  | byHeader
  | byKey
  deriving Repr, DecidableEq

/-- Whether a way may lead through a table. A key with points may not add to a table that
has its own header, and nothing adds to a table in braces. -/
def passable : Guide → Origin → Bool
  | _, .braces => false
  | .byKey, .header => false
  | _, _ => true

def Guide.makes : Guide → Origin
  | .byHeader => .passed
  | .byKey => .dotted

/-- Changes the table at the end of a way, making the tables missing on it. A repeated
header leads to the last of its tables. -/
def along (guide : Guide) (path : List String) (change : Origin → Entries → Option Entries)
    (origin : Origin) (entries : Entries) : Option Entries :=
  match path with
  | [] => change origin entries
  | key :: rest =>
    match entries.find? key with
    | none => do
      let inner ← along guide rest change guide.makes []
      some (entries.insert key (.table guide.makes inner))
    | some (.table kind inner) =>
      if passable guide kind then do
        let inner ← along guide rest change kind inner
        some (entries.insert key (.table kind inner))
      else none
    | some (.tables (last :: others)) => do
      let last ← along guide rest change .header last
      some (entries.insert key (.tables (last :: others)))
    | some _ => none

/-- Stores a value under a new key. A key with points has to end in a table that keys with
points made. -/
def store (path : List String) (key : String) (value : Node) (origin : Origin)
    (entries : Entries) : Option Entries :=
  let put (kind : Origin) (inner : Entries) : Option Entries :=
    if (kind == .dotted) == path.isEmpty then none
    else if inner.contains key then none
    else some (inner.insert key value)
  along .byKey path put origin entries

/-- Opens the table of a header. A table that was only passed so far becomes its own; any
other may not be opened again. -/
def openTable (key : String) (_ : Origin) (entries : Entries) : Option Entries :=
  match entries.find? key with
  | none => some (entries.insert key (.table .header []))
  | some (.table .passed inner) => some (entries.insert key (.table .header inner))
  | some _ => none

def openNext (key : String) (_ : Origin) (entries : Entries) : Option Entries :=
  match entries.find? key with
  | none => some (entries.insert key (.tables [[]]))
  | some (.tables each) => some (entries.insert key (.tables ([] :: each)))
  | some _ => none

def splitKey (parts : List String) : List String × String :=
  (parts.dropLast, parts.getLast?.getD "")

end SpanCapture.Toml
