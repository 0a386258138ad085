import SceneAudit.Proofs.FileTree.Restricted
import SceneAudit.Run

/-!
# Writing files

A dump and a report are each written by opening a file and adding their text to it
(`run_writeText`, `run_writeReport`).  Either way one place of the tree gets a new entry,
which depends on the entry that was there and on nothing else (`rewritten_of_located`),
and no directory comes or goes.  A file that was written holds what was kept of it and
the text behind that (`read_of_rewritten`); if the write broke off, the text may be cut
short (`read_of_not_rewritten`).  If nothing is kept, writing the same again changes
nothing, whatever came of it the first time (`put_put`).
-/

namespace SceneAudit

open FileTree (IsUpdate SameDirectories SameContents changed)

namespace Refusals

variable (refusals : Refusals) {place : Place}

/-! ## One entry -/

/-- What comes of opening a file and then adding bytes to it, and the entry afterwards. -/
def put (truncate : Bool) (place : Place) (entry : Option Entry) (bytes : ByteArray) :
    Except DiskError (Except DiskError Unit) × Option Entry :=
  match refusals.opened truncate place entry with
  | .error error => (.error error, entry)
  | .ok opened =>
    let (outcome, written) := refusals.appended place opened bytes
    (.ok outcome, some written)

theorem put_eq_directory_iff (truncate : Bool) (entry : Option Entry) (bytes : ByteArray) :
    (refusals.put truncate place entry bytes).2 = some .directory ↔ entry = some .directory := by
  unfold put
  cases hopened : refusals.opened truncate place entry with
  | error error => rfl
  | ok opened =>
      obtain ⟨hbefore, hafter⟩ := refusals.not_directory_of_opened hopened
      simp [hbefore, refusals.appended_ne_directory hafter]

theorem put_eq_ok_iff {truncate : Bool} {entry : Option Entry} {bytes : ByteArray} :
    (refusals.put truncate place entry bytes).1 = .ok (.ok ()) ↔
      refusals.opening place = none ∧ refusals.writingOf place bytes = none ∧
        entry ≠ some .directory ∧ (entry = some .full → bytes.isEmpty = true) := by
  unfold put
  cases hopened : refusals.opened truncate place entry with
  | error error =>
      simp only [reduceCtorEq, false_iff]
      rintro ⟨hopening, -, hdirectory, -⟩
      obtain ⟨new, hnew⟩ := refusals.exists_opened hopening hdirectory truncate
      exact absurd (hopened.symm.trans hnew) (by simp)
  | ok new =>
      obtain ⟨hopening, hentry⟩ := refusals.opened_eq_ok_iff.mp hopened
      simp only [Except.ok.injEq, refusals.appended_eq_ok_iff, hopening, true_and]
      obtain ⟨rfl, rfl⟩ | ⟨rfl, rfl⟩ | ⟨contents, rfl, rfl⟩ := hentry
      all_goals simp

/-! ## One file of a tree -/

/-- What comes of opening the file at a path and then adding bytes to it, and the tree
afterwards. -/
def rewritten (truncate : Bool) (path : Path) (bytes : ByteArray) (tree : FileTree) :
    Except DiskError (Except DiskError Unit) × FileTree :=
  match refusals.openWith tree truncate path with
  | .error error => (.error error, tree)
  | .ok opened =>
    let (outcome, after) := refusals.append opened path bytes
    (.ok outcome, after)

variable {refusals} {truncate : Bool} {tree after : FileTree} {path : Path} {bytes : ByteArray}

theorem rewritten_of_not_located {error : DiskError} (h : tree.locateFile path = .error error) :
    refusals.rewritten truncate path bytes tree = (.error error, tree) := by
  unfold rewritten
  rw [refusals.openWith_of_not_located h]

theorem rewritten_of_refused {error : DiskError} (hlocated : tree.locateFile path = .ok place)
    (hopening : refusals.opening place = some error) :
    refusals.rewritten truncate path bytes tree = (.error error, tree) := by
  unfold rewritten openWith
  rw [hlocated]
  simp only [bind, Except.bind, hopening, permit]

/-- After a file was opened its path still leads to it. -/
theorem locateFile_of_opened {opened : Entry} (hlocated : tree.locateFile path = .ok place)
    (hopened : refusals.opened truncate place (tree.entry? place) = .ok opened)
    (hupdate : IsUpdate tree place (some opened) after) : after.locateFile path = .ok place := by
  obtain ⟨hbefore, hafter⟩ := refusals.not_directory_of_opened hopened
  have hsame : SameDirectories tree after := by
    apply hupdate.sameDirectories
    exact iff_of_false (by simpa using hafter) hbefore
  exact hsame.locateFile_eq_ok_iff.mpr hlocated

theorem rewritten_of_located (refusals : Refusals) (truncate : Bool) (bytes : ByteArray)
    (h : tree.locateFile path = .ok place) :
    ∃ after,
      refusals.rewritten truncate path bytes tree =
          ((refusals.put truncate place (tree.entry? place) bytes).1, after) ∧
        IsUpdate tree place (refusals.put truncate place (tree.entry? place) bytes).2 after := by
  have hopen := refusals.puts_openWith truncate h
  unfold rewritten put
  cases hopened : refusals.opened truncate place (tree.entry? place) with
  | error error =>
      rw [hopened] at hopen
      rw [show refusals.openWith tree truncate path = .error error from hopen]
      exact ⟨tree, rfl, tree.isUpdate_self place⟩
  | ok opened =>
      rw [hopened] at hopen
      obtain ⟨middle, hmiddle, hupdate⟩ := hopen
      have hlocated := locateFile_of_opened h hopened hupdate
      obtain ⟨after, happend, hlast⟩ := refusals.append_of_located hlocated hupdate.at_place bytes
      rw [hmiddle]
      simp only [happend]
      -- both steps put an entry in the same place, and the second one stays
      exact ⟨after, rfl, hupdate.trans hlast⟩

/-- A file takes everything unless the disk refuses it or a write breaks off. -/
theorem rewritten_of_writable (refusals : Refusals) (truncate : Bool) (bytes : ByteArray)
    (hlocated : tree.locateFile path = .ok place) (hdirectory : tree.entry? place ≠ some .directory)
    (hfull : tree.entry? place ≠ some .full) (hopening : refusals.opening place = none)
    (hwriting : refusals.writing place bytes = none) :
    (refusals.rewritten truncate path bytes tree).1 = .ok (.ok ()) := by
  obtain ⟨after, hrewritten, -⟩ := refusals.rewritten_of_located truncate bytes hlocated
  rw [hrewritten]
  refine refusals.put_eq_ok_iff.mpr ⟨hopening, ?_, hdirectory, fun h => absurd h hfull⟩
  rw [writingOf, hwriting, ite_self]

/-- Whatever comes of it, nothing else changes. -/
theorem keptExcept_rewritten (refusals : Refusals) (truncate : Bool) (path : Path) (bytes : ByteArray)
    (tree : FileTree) :
    tree.KeptExcept [path] (refusals.rewritten truncate path bytes tree).2 := by
  cases hlocated : tree.locateFile path with
  | error error =>
      rw [rewritten_of_not_located hlocated]
      exact .refl tree _
  | ok place =>
      obtain ⟨after, hrewritten, hupdate⟩ := refusals.rewritten_of_located truncate bytes hlocated
      rw [hrewritten]
      refine ⟨hupdate.sameDirectories (refusals.put_eq_directory_iff _ _ _), ?_⟩
      intro other hother
      apply hupdate.elsewhere
      rintro rfl
      exact hother path List.mem_cons_self hlocated

/-- Trees with the same contents are written alike. -/
theorem rewritten_of_sameContents (refusals : Refusals) (truncate : Bool) (path : Path)
    (bytes : ByteArray) {other : FileTree} (hsame : SameContents tree other) :
    (refusals.rewritten truncate path bytes other).1 = (refusals.rewritten truncate path bytes tree).1 ∧
      SameContents (refusals.rewritten truncate path bytes tree).2
        (refusals.rewritten truncate path bytes other).2 := by
  have hlocateFile := hsame.locateFile_eq path
  cases hlocated : tree.locateFile path with
  | error error =>
      rw [hlocated] at hlocateFile
      rw [rewritten_of_not_located hlocated, rewritten_of_not_located hlocateFile]
      exact ⟨rfl, hsame⟩
  | ok place =>
      rw [hlocated] at hlocateFile
      obtain ⟨first, hfirst, hupdate⟩ := refusals.rewritten_of_located truncate bytes hlocated
      obtain ⟨second, hsecond, hupdate'⟩ := refusals.rewritten_of_located truncate bytes hlocateFile
      rw [hsame.entry?_eq] at hsecond hupdate'
      rw [hfirst, hsecond]
      exact ⟨rfl, hupdate.sameContents hsame hupdate'⟩

/-! ## Reading back -/

/-- The bytes that can be read where this is. -/
def bytesOf : Option Entry → Except DiskError ByteArray
  | none => .error .notFound
  | some .directory => .error .isDirectory
  | some (.file contents) => .ok contents
  | some .full => .ok .empty

theorem read_of_located (h : tree.locateFile path = .ok place) :
    tree.read path = bytesOf (tree.entry? place) := by
  unfold FileTree.read FileTree.find bytesOf
  simp only [FileTree.locate_of_locateFile h, bind, Except.bind]
  rcases tree.entry? place with - | - | contents | - <;> rfl

/-- What is left of a file's bytes when it is opened; where there is no file there are none. -/
def kept (truncate : Bool) (held : Except DiskError ByteArray) : ByteArray :=
  if truncate then .empty else held.toOption.getD .empty

theorem bytesOf_opened {entry : Option Entry} {new : Entry}
    (h : refusals.opened truncate place entry = .ok new) :
    bytesOf (some new) = .ok (kept truncate (bytesOf entry)) := by
  obtain ⟨-, ⟨rfl, rfl⟩ | ⟨rfl, rfl⟩ | ⟨contents, rfl, rfl⟩⟩ := refusals.opened_eq_ok_iff.mp h
  all_goals cases truncate <;> rfl

/-- Some of the first bytes are behind what was held. -/
theorem bytesOf_appended {entry : Entry} {held : ByteArray} (hheld : bytesOf (some entry) = .ok held)
    (refusals : Refusals) (place : Place) (bytes : ByteArray) :
    ∃ taken, bytesOf (some (refusals.appended place entry bytes).2) =
      .ok (held ++ bytes.extract 0 taken) := by
  obtain ⟨-, hsame⟩ | ⟨contents, taken, rfl, hfile⟩ := refusals.appended_cases place entry bytes
  · refine ⟨0, ?_⟩
    rw [hsame, ByteArray.extract_same, ByteArray.append_empty]
    exact hheld
  · obtain rfl := Except.ok.inj hheld
    exact ⟨taken, congrArg (bytesOf ∘ some) hfile⟩

theorem bytesOf_appended_of_ok {entry : Entry} {held : ByteArray}
    (h : (refusals.appended place entry bytes).1 = .ok ()) (hheld : bytesOf (some entry) = .ok held) :
    bytesOf (some (refusals.appended place entry bytes).2) = .ok (held ++ bytes) := by
  obtain ⟨hwriting, ⟨rfl, hempty⟩ | ⟨contents, rfl⟩⟩ := refusals.appended_eq_ok_iff.mp h
  all_goals
    obtain rfl := Except.ok.inj hheld
    rw [appended, hwriting]
  · have hbytes : bytes = .empty := by
      simpa [ByteArray.isEmpty, ByteArray.size_eq_zero_iff] using hempty
    rw [hbytes]
    rfl
  · rfl

theorem bytesOf_put {entry : Option Entry}
    (h : (refusals.put truncate place entry bytes).1 = .ok (.ok ())) :
    bytesOf (refusals.put truncate place entry bytes).2 =
      .ok (kept truncate (bytesOf entry) ++ bytes) := by
  unfold put at h ⊢
  cases hopened : refusals.opened truncate place entry with
  | error error => simp [hopened] at h
  | ok new =>
      rw [hopened] at h
      exact bytesOf_appended_of_ok (Except.ok.inj h) (bytesOf_opened hopened)

/-- A file that was written has a place, which took the bytes. -/
theorem exists_put_of_rewritten (h : (refusals.rewritten truncate path bytes tree).1 = .ok (.ok ())) :
    ∃ place, tree.locateFile path = .ok place ∧
      (refusals.put truncate place (tree.entry? place) bytes).1 = .ok (.ok ()) := by
  cases hlocated : tree.locateFile path with
  | error error =>
      rw [rewritten_of_not_located hlocated] at h
      exact absurd h (by simp)
  | ok place =>
      obtain ⟨after, hrewritten, -⟩ := refusals.rewritten_of_located truncate bytes hlocated
      rw [hrewritten] at h
      exact ⟨place, rfl, h⟩

/-- A file that was written holds what was kept of it and the bytes behind that. -/
theorem read_of_rewritten (h : (refusals.rewritten truncate path bytes tree).1 = .ok (.ok ())) :
    (refusals.rewritten truncate path bytes tree).2.read path =
      .ok (kept truncate (tree.read path) ++ bytes) := by
  obtain ⟨place, hlocated, hput⟩ := exists_put_of_rewritten h
  have hkept := refusals.keptExcept_rewritten truncate path bytes tree
  have hafter := hkept.directories.locateFile_eq_ok_iff.mpr hlocated
  obtain ⟨after, hrewritten, hupdate⟩ := refusals.rewritten_of_located truncate bytes hlocated
  rw [hrewritten] at hafter ⊢
  rw [read_of_located hlocated, read_of_located hafter, hupdate.at_place]
  exact bytesOf_put hput

/-- A file that was to be replaced and was not holds what it held, or as much of the bytes as
it has taken. -/
theorem read_of_not_rewritten (refusals : Refusals) (path : Path) (bytes : ByteArray) (tree : FileTree) :
    (refusals.rewritten true path bytes tree).2.read path = tree.read path ∨
      ∃ taken, (refusals.rewritten true path bytes tree).2.read path = .ok (bytes.extract 0 taken) := by
  cases hlocated : tree.locateFile path with
  | error error =>
      rw [rewritten_of_not_located hlocated]
      exact .inl rfl
  | ok place =>
      have hkept := refusals.keptExcept_rewritten true path bytes tree
      have hafter := hkept.directories.locateFile_eq_ok_iff.mpr hlocated
      obtain ⟨after, hrewritten, hupdate⟩ :=
        refusals.rewritten_of_located true bytes hlocated
      rw [hrewritten] at hafter ⊢
      rw [read_of_located hlocated, read_of_located hafter, hupdate.at_place]
      unfold put
      cases hopened : refusals.opened true place (tree.entry? place) with
      | error error => exact .inl rfl
      | ok new =>
          obtain ⟨taken, hheld⟩ := bytesOf_appended (bytesOf_opened hopened) refusals place bytes
          rw [kept, if_pos rfl, ByteArray.empty_append] at hheld
          exact .inr ⟨taken, hheld⟩

/-! ## Writing again -/

variable {entry : Option Entry}

/-- A file that was emptied when it was opened is so when it is opened again. -/
theorem opened_of_opened {opened : Entry} (h : refusals.opened true place entry = .ok opened) :
    refusals.opened true place (some opened) = .ok opened := by
  obtain ⟨hopening, hentry⟩ := refusals.opened_eq_ok_iff.mp h
  refine refusals.opened_eq_ok_iff.mpr ⟨hopening, ?_⟩
  obtain ⟨-, rfl⟩ | ⟨-, rfl⟩ | ⟨contents, -, rfl⟩ := hentry
  · exact .inr (.inr ⟨_, rfl, rfl⟩)
  · exact .inr (.inl ⟨rfl, rfl⟩)
  · exact .inr (.inr ⟨_, rfl, rfl⟩)

/-- Nor does it matter what was added to it. -/
theorem opened_of_appended {opened : Entry} (h : refusals.opened true place entry = .ok opened)
    (bytes : ByteArray) :
    refusals.opened true place (some (refusals.appended place opened bytes).2) = .ok opened := by
  have hagain := opened_of_opened h
  obtain ⟨-, hsame⟩ | ⟨contents, taken, rfl, hfile⟩ := refusals.appended_cases place opened bytes
  · rwa [hsame]
  · rw [hfile]
    exact hagain

/-- What was put in a place of which nothing is kept can be put there again, or not, with
the same outcome. -/
theorem put_put (refusals : Refusals) (place : Place) (entry : Option Entry) (bytes : ByteArray) :
    refusals.put true place (refusals.put true place entry bytes).2 bytes =
      refusals.put true place entry bytes := by
  cases hopened : refusals.opened true place entry with
  | error error => simp only [put, hopened]
  | ok opened => simp only [put, hopened, opened_of_appended hopened]

/-- What could be put in a place can be put there again. -/
theorem put_again (h : (refusals.put truncate place entry bytes).1 = .ok (.ok ())) :
    (refusals.put truncate place (refusals.put truncate place entry bytes).2 bytes).1 =
      .ok (.ok ()) := by
  have hheld := bytesOf_put h
  obtain ⟨hopening, hwriting, hdirectory, -⟩ := refusals.put_eq_ok_iff.mp h
  refine refusals.put_eq_ok_iff.mpr ⟨hopening, hwriting, ?_, ?_⟩
  · exact mt (refusals.put_eq_directory_iff truncate entry bytes).mp hdirectory
  · intro hfull
    -- a device that took the bytes held nothing before and holds nothing now
    rw [hfull] at hheld
    have hsize := congrArg ByteArray.size (Except.ok.inj hheld)
    rw [ByteArray.size_append] at hsize
    have hempty : bytes.size = 0 := by
      have : ByteArray.empty.size = 0 := rfl
      omega
    simpa [ByteArray.isEmpty] using hempty

end Refusals

namespace Run

open Restricted

variable {refusals : Refusals} {opening : Restricted refusals (Except DiskError Unit)}
  {truncate : Bool} {path : Path} {tree : FileTree}

/-- A file is opened first, and if it was, bytes are added to it. -/
theorem run_opening_append
    (hopening : opening.run tree = changed tree (refusals.openWith tree truncate path))
    (bytes : ByteArray) {α : Type} (unopened : DiskError → α) (outcome : Except DiskError Unit → α) :
    (opening >>= fun opened =>
        match opened with
        | .error cause => pure (unopened cause)
        | .ok () => outcome <$> Disk.append path bytes : Restricted refusals α).run tree =
      (match (refusals.rewritten truncate path bytes tree).1 with
        | .error cause => unopened cause
        | .ok appended => outcome appended,
        (refusals.rewritten truncate path bytes tree).2) := by
  unfold Refusals.rewritten
  rw [run_bind, hopening]
  cases refusals.openWith tree truncate path with
  | error cause => rfl
  | ok opened =>
      simp only [changed]
      rw [← bind_pure_comp, run_bind, run_append]
      rfl

theorem run_writeText (path : Path) (text : String) (tree : FileTree) :
    (writeText path text : Restricted refusals _).run tree =
      ((refusals.rewritten true path text.toUTF8 tree).1.bind id,
        (refusals.rewritten true path text.toUTF8 tree).2) := by
  have h := run_opening_append (@run_create refusals path tree) text.toUTF8 Except.error id
  simp only [id_map] at h
  unfold writeText
  refine Eq.trans h ?_
  cases (refusals.rewritten true path text.toUTF8 tree).1 <;> rfl

/-- Whether a mode drops what the report held before. -/
def truncates : ReportMode → Bool
  | .truncate => true
  | .append => false

/-- The outcome of a report, by what came of opening and writing it. -/
def reportOutcome (path : Path) : Except DiskError (Except DiskError Unit) → Except RunError Unit
  | .error cause => .error (.disk path cause)
  | .ok appended => appended.mapError (RunError.report path)

theorem run_writeReport (path : Path) (mode : ReportMode) (findings : List Finding)
    (tree : FileTree) :
    (writeReport path mode findings : Restricted refusals _).run tree =
      (reportOutcome path
          (refusals.rewritten (truncates mode) path (reportText findings).toUTF8 tree).1,
        (refusals.rewritten (truncates mode) path (reportText findings).toUTF8 tree).2) := by
  have h : ∀ {opening : Restricted refusals (Except DiskError Unit)},
      opening.run tree = changed tree (refusals.openWith tree (truncates mode) path) → _ :=
    fun hopening => run_opening_append hopening (reportText findings).toUTF8
      (fun cause => Except.error (RunError.disk path cause)) (Except.mapError (RunError.report path))
  unfold writeReport reportOutcome
  simp only [bind_pure_comp]
  cases mode with
  | truncate => exact h (run_create path tree)
  | append => exact h (run_ensure path tree)

theorem reportOutcome_eq_ok_iff {written : Except DiskError (Except DiskError Unit)} :
    reportOutcome path written = .ok () ↔ written = .ok (.ok ()) := by
  rcases written with error | error | _ <;> simp [reportOutcome, Except.mapError]

end Run

end SceneAudit
