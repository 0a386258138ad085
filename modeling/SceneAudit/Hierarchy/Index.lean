import SceneAudit.Reference
import Std.Data.HashMap

/-!
# Records by file identifier

Within a scene a file identifier should name one record of each kind.  Where several records share one, the first
counts and the others are only remembered as repetitions.
-/

namespace SceneAudit

/-- Records by their file identifiers. -/
structure Index (α : Type) where
  /-- The first record of every file identifier. -/
  byId : Std.HashMap FileId α
  /-- The same records, the last one first. -/
  reversedKept : List α
  /-- The file identifiers of the records that came too late, the last one first. -/
  reversedRepeated : List FileId

namespace Index

variable {α : Type}

def empty : Index α := ⟨∅, [], []⟩

/-- The index with one more record. -/
def add (id : α → FileId) (index : Index α) (record : α) : Index α :=
  if id record ∈ index.byId then
    { index with reversedRepeated := id record :: index.reversedRepeated }
  else
    { index with
      byId := index.byId.insert (id record) record
      reversedKept := record :: index.reversedKept }

/-- The index of a list of records, earlier ones first. -/
def ofList (id : α → FileId) (records : List α) : Index α :=
  records.foldl (add id) empty

/-- The first record of every file identifier, in document order. -/
def kept (index : Index α) : List α :=
  index.reversedKept.reverse

/-- The file identifiers of the records that came too late, in document order. -/
def repeated (index : Index α) : List FileId :=
  index.reversedRepeated.reverse

end Index

end SceneAudit
