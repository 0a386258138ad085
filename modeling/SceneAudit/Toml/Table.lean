import SceneAudit.Toml.Scalar

/-!
# Values and tables of TOML

A table is built piece by piece: by the lines below its header, by dotted keys and by the headers of the tables inside
it.  How a table came about decides what may still be added to it.
-/

namespace SceneAudit.Toml

/-- How a table came about. -/
inductive Origin where
  /-- A header named a table inside it, but not yet the table itself. -/
  | passed
  /-- A dotted key went through it. -/
  | dotted
  /-- A header of its own. -/
  | header
  /-- Braces; nothing can be added. -/
  | braces
deriving DecidableEq

inductive Value where
  | text (value : String)
  | scalar (value : Scalar)
  | array (elements : List Value)
  | table (origin : Origin) (entries : List (String × Value))
  /-- Tables that share a header in double brackets, the last one first. -/
  | tables (reversed : List (List (String × Value)))

/-- The entries of a table, in order. -/
abbrev Entries := List (String × Value)

namespace Entries

/-- The value of a key. -/
def find? (entries : Entries) (key : String) : Option Value :=
  entries.lookup key

/-- The entries with a key added that is not there. -/
def add? (entries : Entries) (key : String) (value : Value) : Option Entries :=
  if (entries.find? key).isSome then none else some (entries ++ [(key, value)])

/-- The entries with another value for a key that is there. -/
def replace (entries : Entries) (key : String) (value : Value) : Entries :=
  entries.map fun entry => if entry.1 = key then (key, value) else entry

/-- Whether a table may be gone through on the way to another one, where `created` says how the tables on the way come
about that are missing: a dotted key must not go through a table that has a header. -/
def mayPass (created origin : Origin) : Bool :=
  match origin with
  | .braces => false
  | .header => created ≠ .dotted
  | .passed | .dotted => true

/-- Changes the table at the end of a way of keys; the change is told how that table came about. -/
def update? (created : Origin) (change : Origin → Entries → Option Entries) :
    List String → Origin → Entries → Option Entries
  | [], origin, entries => change origin entries
  | key :: way, _, entries =>
    match entries.find? key with
    | none => do
      let inner ← update? created change way created []
      return entries ++ [(key, .table created inner)]
    | some (.table origin inner) =>
      if mayPass created origin then do
        return entries.replace key (.table origin (← update? created change way origin inner))
      else none
    | some (.tables (last :: earlier)) => do
      return entries.replace key (.tables ((← update? created change way .header last) :: earlier))
    | some _ => none

/-- Adds a value under a dotted key, of which all parts but the last are the way.  The last table on the way must have
come about by dotted keys. -/
def insert? (way : List String) (key : String) (value : Value) (entries : Entries) : Option Entries :=
  update? .dotted
    (fun origin entries => if way.isEmpty || origin = .dotted then entries.add? key value else none)
    way .header entries

/-- Opens the table of a header, of which all parts but the last are the way. -/
def openTable? (way : List String) (key : String) (entries : Entries) : Option Entries :=
  update? .passed
    (fun _ entries =>
      match entries.find? key with
      | none => entries.add? key (.table .header [])
      | some (.table .passed inner) => some (entries.replace key (.table .header inner))
      | some _ => none)
    way .header entries

/-- Opens one more of the tables that share a header. -/
def openElement? (way : List String) (key : String) (entries : Entries) : Option Entries :=
  update? .passed
    (fun _ entries =>
      match entries.find? key with
      | none => entries.add? key (.tables [[]])
      | some (.tables reversed) => some (entries.replace key (.tables ([] :: reversed)))
      | some _ => none)
    way .header entries

end Entries

end SceneAudit.Toml
