import SceneAudit.Sidecar

/-!
# The lines of a sidecar that count

A sidecar is read line by line, and each line is looked at with what the lines before it gave.
What comes of it depends on the lines that do not start with a blank (`topLevel`): the guid is
that of the first of them which is a `guid:` line (`guidLine?`), because a `guid:` line always
leaves something behind, if only the note that nothing can be read from it.
-/

namespace SceneAudit

open Text

theorem Reference.guid_some_ne_absent (value : String) :
    Reference.guid (some value) ≠ .unresolved .absent := by
  simp only [Reference.guid, Reference.read]
  split <;> simp

namespace Sidecar

/-- The line without its trailing blanks, unless it starts with a blank. -/
def topLevel? (line : String) : Option String :=
  if isIndented line.toList then none else some (String.ofList (trimEnd line.toList))

/-- The lines that do not start with a blank, without their trailing blanks. -/
def topLevel (text : String) : List String :=
  (lines text).filterMap topLevel?

/-- The first `guid:` line. -/
def guidLine? (text : String) : Option String :=
  (topLevel text).find? fun line => guidKey.toList.isPrefixOf line.toList

theorem readLine_of_topLevel?_eq_none {line : String} (h : topLevel? line = none) (sidecar : Sidecar) :
    sidecar.readLine line = sidecar := by
  unfold topLevel? at h
  unfold readLine
  split at h
  · next hindented => rw [if_pos hindented]
  · exact absurd h (by simp)

theorem readLine_of_topLevel?_eq_some {line top : String} (h : topLevel? line = some top)
    (sidecar : Sidecar) :
    sidecar.readLine line =
      if top = scriptImporter then { sidecar with isScriptAsset := true }
      else if guidKey.toList.isPrefixOf top.toList && sidecar.guid = .unresolved .absent then
        { sidecar with guid := Reference.guid (some top) }
      else sidecar := by
  unfold topLevel? at h
  unfold readLine
  split at h
  · exact absurd h (by simp)
  · next hindented =>
      rw [if_neg hindented, Option.some.inj h]

/-- What lines add to a sidecar: a guid, unless there is one or a note that there is none, and
the mark of a script. -/
theorem foldl_readLine (lines : List String) (sidecar : Sidecar) :
    lines.foldl readLine sidecar =
      { guid :=
          if sidecar.guid = .unresolved .absent then
            Reference.guid ((lines.filterMap topLevel?).find? fun line =>
              guidKey.toList.isPrefixOf line.toList)
          else sidecar.guid
        path := sidecar.path
        isScriptAsset :=
          sidecar.isScriptAsset || (lines.filterMap topLevel?).contains scriptImporter } := by
  induction lines generalizing sidecar with
  | nil =>
      by_cases hguid : sidecar.guid = .unresolved .absent
      · simp [← hguid, Reference.guid, Reference.read]
      · simp [hguid]
  | cons line lines ih =>
      rw [List.foldl_cons, ih]
      cases htop : topLevel? line with
      | none => rw [readLine_of_topLevel?_eq_none htop, List.filterMap_cons_none htop]
      | some top =>
          rw [readLine_of_topLevel?_eq_some htop, List.filterMap_cons_some htop]
          by_cases himporter : top = scriptImporter
          · have hkey : guidKey.toList.isPrefixOf scriptImporter.toList = false := by decide
            simp [himporter, hkey]
          · by_cases hkey : guidKey.toList.isPrefixOf top.toList = true
            · by_cases hguid : sidecar.guid = .unresolved .absent
              · simp [himporter, hkey, hguid, Reference.guid_some_ne_absent, Ne.symm himporter]
              · simp [himporter, hkey, hguid, Ne.symm himporter]
            · simp [himporter, hkey, Ne.symm himporter]

/-- A sidecar has the guid of the first `guid:` line and is marked by any line of the importer. -/
theorem ofText_eq (path : Path) (text : String) :
    ofText path text =
      ⟨Reference.guid (guidLine? text), path, (topLevel text).contains scriptImporter⟩ := by
  rw [ofText, foldl_readLine]
  simp [guidLine?, topLevel]

end Sidecar

end SceneAudit
