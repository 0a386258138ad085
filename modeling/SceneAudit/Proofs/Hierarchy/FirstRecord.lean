import SceneAudit.Hierarchy.Index
import Mathlib.Data.List.Induction
import Mathlib.Data.List.Nodup

/-!
# The first record of every file identifier

The rule for repeated file identifiers is that the first record wins.  Here the
rule stands on its own: `firstRecords` keeps the records that win,
`repeatedRecords` the others, and `recordOf?` looks a file identifier up.  An
`Index` is built in one pass with a hash map; the last section says that it
follows the rule:

* `getElem?_byId_ofList`: its map finds what `recordOf?` finds;
* `kept_ofList` and `repeated_ofList`: the records that it keeps are
  `firstRecords`, and it remembers the identifiers of `repeatedRecords`.

The proofs take a list of records apart at its end, because whether a record
wins is decided by the records before it.
-/

namespace SceneAudit

variable {α : Type} (id : α → FileId)

/-- The first record with the file identifier. -/
def recordOf? (records : List α) (key : FileId) : Option α :=
  records.find? fun record => id record == key

/-- The records, each with whether it is the first with its file identifier;
those in `taken` have had their first. -/
def markFirst (taken : List FileId) : List α → List (α × Bool)
  | [] => []
  | record :: records =>
      (record, id record ∉ taken) :: markFirst (id record :: taken) records

/-- The records that are the first with their file identifier, in order. -/
def firstRecords (records : List α) : List α :=
  ((markFirst id [] records).filter fun marked => marked.2).map Prod.fst

/-- The records whose file identifier an earlier one has, in order. -/
def repeatedRecords (records : List α) : List α :=
  ((markFirst id [] records).filter fun marked => !marked.2).map Prod.fst

variable {id}

/-! ## Looking up a file identifier -/

theorem id_eq_of_recordOf? {records : List α} {key : FileId} {record : α}
    (h : recordOf? id records key = some record) : id record = key := by
  simpa using List.find?_some h

theorem mem_of_recordOf? {records : List α} {key : FileId} {record : α}
    (h : recordOf? id records key = some record) : record ∈ records :=
  List.mem_of_find?_eq_some h

theorem isSome_recordOf?_iff {records : List α} {key : FileId} :
    (recordOf? id records key).isSome ↔ key ∈ records.map id := by
  simp [recordOf?]

theorem recordOf?_append_singleton (records : List α) (record : α) (key : FileId) :
    recordOf? id (records ++ [record]) key =
      (recordOf? id records key).or (if id record = key then some record else none) := by
  by_cases h : id record = key <;> simp [recordOf?, List.find?_append, h]

/-! ## Taking records apart at the end -/

theorem markFirst_append_singleton (taken : List FileId) (records : List α) (record : α) :
    markFirst id taken (records ++ [record]) =
      markFirst id taken records ++
        [(record, decide (id record ∉ taken ∧ id record ∉ records.map id))] := by
  induction records generalizing taken with
  | nil => simp [markFirst]
  | cons head records ih =>
      simp only [List.cons_append, markFirst, ih, List.map_cons, List.mem_cons, not_or]
      congr 4
      exact decide_eq_decide.mpr (by rw [and_assoc, and_left_comm])

theorem firstRecords_append_singleton (records : List α) (record : α) :
    firstRecords id (records ++ [record]) =
      firstRecords id records ++ if id record ∈ records.map id then [] else [record] := by
  unfold firstRecords
  rw [markFirst_append_singleton, List.filter_append, List.map_append]
  by_cases h : id record ∈ records.map id <;> simp [h]

theorem repeatedRecords_append_singleton (records : List α) (record : α) :
    repeatedRecords id (records ++ [record]) =
      repeatedRecords id records ++ if id record ∈ records.map id then [record] else [] := by
  unfold repeatedRecords
  rw [markFirst_append_singleton, List.filter_append, List.map_append]
  by_cases h : id record ∈ records.map id <;> simp [h]

/-! ## The records that win -/

/-- A record wins if and only if it is the one that its file identifier finds. -/
theorem mem_firstRecords_iff {records : List α} {record : α} :
    record ∈ firstRecords id records ↔ recordOf? id records (id record) = some record := by
  induction records using List.reverseRecOn with
  | nil => simp [firstRecords, markFirst, recordOf?]
  | append_singleton records last ih =>
      rw [firstRecords_append_singleton, recordOf?_append_singleton, List.mem_append, ih]
      cases hfound : recordOf? id records (id record) with
      | some found =>
          -- the file identifier is taken, so the last record is another one or loses
          have htaken : id record ∈ records.map id := isSome_recordOf?_iff.mp (by simp [hfound])
          by_cases hlast : id last ∈ records.map id
          · simp [hlast]
          · have hne : record ≠ last := by
              rintro rfl
              exact hlast htaken
            simp [hlast, hne]
      | none =>
          have hfresh : id record ∉ records.map id := by
            rw [← isSome_recordOf?_iff, hfound]
            simp
          by_cases heq : record = last
          · subst heq
            simp [hfresh]
          · have hother : last ≠ record := fun h => heq h.symm
            by_cases hlast : id last ∈ records.map id <;> simp [hlast, heq, hother]

theorem mem_of_mem_firstRecords {records : List α} {record : α}
    (h : record ∈ firstRecords id records) : record ∈ records :=
  mem_of_recordOf? (mem_firstRecords_iff.mp h)

theorem mem_map_firstRecords_iff {records : List α} {key : FileId} :
    key ∈ (firstRecords id records).map id ↔ key ∈ records.map id := by
  constructor
  · intro h
    obtain ⟨record, hrecord, rfl⟩ := List.mem_map.mp h
    exact List.mem_map_of_mem (mem_of_mem_firstRecords hrecord)
  · intro h
    obtain ⟨record, hfound⟩ := Option.isSome_iff_exists.mp (isSome_recordOf?_iff.mpr h)
    have hid := id_eq_of_recordOf? hfound
    exact List.mem_map.mpr ⟨record, mem_firstRecords_iff.mpr (hid ▸ hfound), hid⟩

/-- No two records that win share a file identifier. -/
theorem nodup_map_firstRecords (records : List α) : ((firstRecords id records).map id).Nodup := by
  induction records using List.reverseRecOn with
  | nil => simp [firstRecords, markFirst]
  | append_singleton records last ih =>
      rw [firstRecords_append_singleton]
      by_cases hlast : id last ∈ records.map id
      · simpa [hlast] using ih
      · rw [if_neg hlast, List.map_append, List.map_singleton, List.nodup_append]
        refine ⟨ih, List.nodup_singleton _, ?_⟩
        rintro key hkey other hother rfl
        rw [List.mem_singleton.mp hother] at hkey
        exact hlast (mem_map_firstRecords_iff.mp hkey)

theorem map_fst_markFirst (taken : List FileId) (records : List α) :
    (markFirst id taken records).map Prod.fst = records := by
  induction records generalizing taken with
  | nil => rfl
  | cons record records ih => rw [markFirst, List.map_cons, ih]

/-- Where no record is repeated, all of them win. -/
theorem firstRecords_of_repeatedRecords_eq_nil {records : List α}
    (h : repeatedRecords id records = []) : firstRecords id records = records := by
  rw [repeatedRecords, List.map_eq_nil_iff, List.filter_eq_nil_iff] at h
  rw [firstRecords, List.filter_eq_self.mpr fun marked hmarked => by simpa using h marked hmarked,
    map_fst_markFirst]

/-- Where no two records share a file identifier, none is repeated. -/
theorem repeatedRecords_of_nodup {records : List α} (h : (records.map id).Nodup) :
    repeatedRecords id records = [] := by
  induction records using List.reverseRecOn with
  | nil => rfl
  | append_singleton records last ih =>
      rw [List.map_append, List.map_singleton, List.nodup_append] at h
      have hfresh : id last ∉ records.map id := fun hmem =>
        h.2.2 _ hmem _ (List.mem_singleton_self _) rfl
      rw [repeatedRecords_append_singleton, ih h.1, if_neg hfresh, List.append_nil]

theorem firstRecords_of_nodup {records : List α} (h : (records.map id).Nodup) :
    firstRecords id records = records :=
  firstRecords_of_repeatedRecords_eq_nil (repeatedRecords_of_nodup h)

/-- Which file identifiers are repeated depends on nothing else of the records. -/
theorem map_repeatedRecords (records : List α) :
    (repeatedRecords id records).map id = repeatedRecords (fun key => key) (records.map id) := by
  induction records using List.reverseRecOn with
  | nil => rfl
  | append_singleton records last ih =>
      rw [repeatedRecords_append_singleton, List.map_append, ih, List.map_append,
        List.map_singleton, repeatedRecords_append_singleton, List.map_id']
      split <;> rfl

/-! ## The index of a list of records -/

namespace Index

theorem ofList_append_singleton (records : List α) (record : α) :
    ofList id (records ++ [record]) = add id (ofList id records) record := by
  simp [ofList, List.foldl_append]

theorem getElem?_byId_ofList (records : List α) (key : FileId) :
    (ofList id records).byId[key]? = recordOf? id records key := by
  induction records using List.reverseRecOn with
  | nil => simp [ofList, empty, recordOf?]
  | append_singleton records last ih =>
      rw [ofList_append_singleton, recordOf?_append_singleton, ← ih, add]
      by_cases htaken : id last ∈ (ofList id records).byId
      · rw [if_pos htaken]
        cases hfound : (ofList id records).byId[key]? with
        | some found => rfl
        | none =>
            have hne : id last ≠ key := by
              rintro rfl
              rw [Std.HashMap.mem_iff_isSome_getElem?, hfound] at htaken
              simp at htaken
            simp [hne]
      · rw [if_neg htaken, Std.HashMap.getElem?_insert]
        by_cases hkey : id last = key
        · subst hkey
          simp [Std.HashMap.getElem?_eq_none htaken]
        · simp [hkey]

theorem mem_byId_ofList_iff {records : List α} {key : FileId} :
    key ∈ (ofList id records).byId ↔ key ∈ records.map id := by
  rw [Std.HashMap.mem_iff_isSome_getElem?, getElem?_byId_ofList, isSome_recordOf?_iff]

/-- The index keeps the records that win, in order. -/
theorem kept_ofList (records : List α) : (ofList id records).kept = firstRecords id records := by
  induction records using List.reverseRecOn with
  | nil => rfl
  | append_singleton records last ih =>
      rw [ofList_append_singleton, firstRecords_append_singleton, ← ih, add]
      simp only [mem_byId_ofList_iff]
      split <;> simp [kept]

theorem repeated_ofList (records : List α) :
    (ofList id records).repeated = (repeatedRecords id records).map id := by
  induction records using List.reverseRecOn with
  | nil => rfl
  | append_singleton records last ih =>
      rw [ofList_append_singleton, repeatedRecords_append_singleton, List.map_append, ← ih, add]
      simp only [mem_byId_ofList_iff]
      split <;> simp [repeated]

/-- The index of the records that win is that of all records, but for what it
remembers of the others. -/
theorem ofList_firstRecords (records : List α) :
    ofList id (firstRecords id records) = { ofList id records with reversedRepeated := [] } := by
  induction records using List.reverseRecOn with
  | nil => rfl
  | append_singleton records last ih =>
      rw [firstRecords_append_singleton, ofList_append_singleton, add]
      simp only [mem_byId_ofList_iff]
      split
      · rw [List.append_nil, ih]
      · rename_i hfresh
        have hindex : id last ∉ (ofList id records).byId := by rwa [mem_byId_ofList_iff]
        rw [ofList_append_singleton, ih, add, if_neg hindex]

end Index

end SceneAudit
