import SceneAudit.FileTree.Disk
import SceneAudit.Proofs.FileTree.Contents
import Mathlib.Control.Lawful

/-!
# File trees that refuse

A disk may refuse to read a file or to open one for writing, and a write to a file may
break off after any number of its bytes, which the file then keeps (`ShortWrite`).  A run
on a tree together with such refusals (`Restricted`) meets every failure to read or to
write a file that a disk can have at a place; directories are made as in the plain tree.
Without refusals it is a run on the plain tree (`disk_nothing`).

Only `create`, `ensure`, `append` and `makeDirectory` change the tree.  What they do at
the place in question depends on the entry there and on nothing else (`opened`,
`appended`).  What opening and adding can do is told by `opened_eq_ok_iff` and
`appended_cases`.
-/

namespace SceneAudit

open SceneAudit.Path (IsName)

/-- The outcome of a change and the tree after it; a change that is refused is none. -/
def FileTree.changed (tree : FileTree) : Except DiskError FileTree → Except DiskError Unit × FileTree
  | .ok after => (.ok (), after)
  | .error error => (.error error, tree)

/-- The end of a write that has broken off. -/
structure ShortWrite where
  /-- How many of the bytes the file has taken. -/
  taken : Nat
  cause : DiskError

/-- What a disk refuses at each place, and why. -/
structure Refusals where
  reading : Place → Option DiskError
  opening : Place → Option DiskError
  /-- How it ends when the bytes are written to a file that was opened, if it does not end well. -/
  writing : Place → ByteArray → Option ShortWrite

namespace Refusals

open FileTree (changed)

def nothing : Refusals :=
  ⟨fun _ => none, fun _ => none, fun _ _ => none⟩

def permit : Option DiskError → Except DiskError Unit
  | none => .ok ()
  | some error => .error error

variable (refusals : Refusals)

def read (tree : FileTree) (path : Path) : Except DiskError ByteArray := do
  let (place, _) ← tree.find path
  permit (refusals.reading place)
  tree.read path

def openWith (tree : FileTree) (truncate : Bool) (path : Path) : Except DiskError FileTree := do
  let place ← tree.locateFile path
  permit (refusals.opening place)
  tree.openWith truncate path

/-- How a write ends that does not end well; without bytes there is none. -/
def writingOf (place : Place) (bytes : ByteArray) : Option ShortWrite :=
  if bytes.isEmpty then none else refusals.writing place bytes

/-- What comes of adding bytes to a file, and the tree afterwards; a write that breaks off
has added the bytes before that. -/
def append (tree : FileTree) (path : Path) (bytes : ByteArray) : Except DiskError Unit × FileTree :=
  match tree.find path with
  | .error error => (.error error, tree)
  | .ok (place, _) =>
    match refusals.writingOf place bytes with
    | none => changed tree (tree.append path bytes)
    | some short =>
      (.error short.cause, (changed tree (tree.append path (bytes.extract 0 short.taken))).2)

end Refusals

/-- Runs on a tree that refuses. -/
def Restricted (_refusals : Refusals) (α : Type) : Type :=
  StateM FileTree α

namespace Restricted

open FileTree (changed)

variable {refusals : Refusals} {α β : Type}

instance : Monad (Restricted refusals) :=
  inferInstanceAs (Monad (StateM FileTree))

instance : LawfulMonad (Restricted refusals) :=
  inferInstanceAs (LawfulMonad (StateM FileTree))

instance : Disk (Restricted refusals) where
  isDirectory path := FileTree.look (·.isDirectory path)
  files deep path := FileTree.look (·.files deep path)
  read path := FileTree.look (refusals.read · path)
  create path := FileTree.change (refusals.openWith · true path)
  ensure path := FileTree.change (refusals.openWith · false path)
  append path bytes := (modifyGet (refusals.append · path bytes) : StateM FileTree _)
  makeDirectory path := FileTree.change (·.makeDirectory path)

/-- The result and the tree that a run leaves behind. -/
def run (action : Restricted refusals α) (tree : FileTree) : α × FileTree :=
  StateT.run action tree

@[simp] theorem run_pure (a : α) (tree : FileTree) :
    (pure a : Restricted refusals α).run tree = (a, tree) := rfl

@[simp] theorem run_bind (action : Restricted refusals α) (next : α → Restricted refusals β)
    (tree : FileTree) :
    (action >>= next).run tree = (next (action.run tree).1).run (action.run tree).2 := rfl

/-! ## The operations of the disk -/

@[simp] theorem run_isDirectory (path : Path) (tree : FileTree) :
    (Disk.isDirectory path : Restricted refusals Bool).run tree = (tree.isDirectory path, tree) := rfl

@[simp] theorem run_files (deep : Bool) (path : Path) (tree : FileTree) :
    (Disk.files deep path : Restricted refusals (List Path)).run tree =
      (tree.files deep path, tree) := rfl

@[simp] theorem run_read (path : Path) (tree : FileTree) :
    (Disk.read path : Restricted refusals _).run tree = (refusals.read tree path, tree) := rfl

theorem run_change (step : FileTree → Except DiskError FileTree) (tree : FileTree) :
    (FileTree.change step : StateM FileTree _).run tree = changed tree (step tree) := by
  unfold FileTree.change changed
  simp only [StateT.run_bind, StateT.run_get, pure_bind]
  cases step tree <;> rfl

theorem run_create (path : Path) (tree : FileTree) :
    (Disk.create path : Restricted refusals _).run tree =
      changed tree (refusals.openWith tree true path) :=
  run_change _ tree

theorem run_ensure (path : Path) (tree : FileTree) :
    (Disk.ensure path : Restricted refusals _).run tree =
      changed tree (refusals.openWith tree false path) :=
  run_change _ tree

theorem run_append (path : Path) (bytes : ByteArray) (tree : FileTree) :
    (Disk.append path bytes : Restricted refusals _).run tree = refusals.append tree path bytes := rfl

theorem run_makeDirectory (path : Path) (tree : FileTree) :
    (Disk.makeDirectory path : Restricted refusals _).run tree =
      changed tree (tree.makeDirectory path) :=
  run_change _ tree

/-! ## Loops -/

theorem run_foldlM (step : β → α → Restricted refusals β) (items : List α) (start : β)
    (tree : FileTree) :
    (items.foldlM step start).run tree =
      items.foldl (fun state item => (step state.1 item).run state.2) (start, tree) := by
  induction items generalizing start tree with
  | nil => rfl
  | cons item items ih =>
      rw [List.foldlM_cons, run_bind, ih]
      rfl

/-- Actions that only look at the tree may be done one by one. -/
theorem run_mapM {look : α → Restricted refusals β} {view : α → β} {tree : FileTree}
    (hlook : ∀ item, (look item).run tree = (view item, tree)) (items : List α) :
    (items.mapM look).run tree = (items.map view, tree) := by
  induction items with
  | nil => rfl
  | cons item items ih =>
      rw [List.mapM_cons, run_bind, hlook, run_bind, ih]
      rfl

theorem run_filterMapM {look : α → Restricted refusals (Option β)} {view : α → Option β}
    {tree : FileTree} (hlook : ∀ item, (look item).run tree = (view item, tree)) (items : List α) :
    (items.filterMapM look).run tree = (items.filterMap view, tree) := by
  induction items with
  | nil => rfl
  | cons item items ih =>
      rw [List.filterMapM_cons, run_bind, hlook]
      cases hview : view item with
      | none => rw [ih, List.filterMap_cons_none hview]
      | some found =>
          rw [run_bind, ih, List.filterMap_cons_some hview]
          rfl

/-- Whatever is done on the way, what is found bears the marks of the items, in order. -/
theorem sublist_run_filterMapM {γ : Type} {ask : α → Restricted refusals (Option β)} {key : β → γ}
    {mark : α → γ}
    (hkey : ∀ item tree found, ((ask item).run tree).1 = some found → key found = mark item)
    (items : List α) (tree : FileTree) :
    (((items.filterMapM ask).run tree).1.map key).Sublist (items.map mark) := by
  induction items generalizing tree with
  | nil => exact List.Sublist.refl []
  | cons item items ih =>
      rw [List.filterMapM_cons, run_bind]
      cases hfound : ((ask item).run tree).1 with
      | none => exact (ih _).cons _
      | some found =>
          rw [run_bind, run_pure, List.map_cons, List.map_cons, hkey item tree found hfound]
          exact (ih _).cons_cons _

/-! ## A disk that refuses nothing -/

theorem read_nothing (tree : FileTree) (path : Path) :
    Refusals.nothing.read tree path = tree.read path := by
  unfold Refusals.read FileTree.read
  cases tree.find path with
  | error error => rfl
  | ok found => rfl

theorem openWith_nothing (tree : FileTree) (truncate : Bool) (path : Path) :
    Refusals.nothing.openWith tree truncate path = tree.openWith truncate path := by
  unfold Refusals.openWith FileTree.openWith
  cases tree.locateFile path with
  | error error => rfl
  | ok place => rfl

theorem append_nothing (tree : FileTree) (path : Path) (bytes : ByteArray) :
    Refusals.nothing.append tree path bytes = changed tree (tree.append path bytes) := by
  unfold Refusals.append
  cases hfind : tree.find path with
  | error error =>
      rw [FileTree.append, hfind]
      rfl
  | ok found =>
      have hwriting : Refusals.nothing.writingOf found.1 bytes = none := ite_self none
      simp only [hwriting]

/-- Without refusals the disk is that of the plain tree. -/
theorem disk_nothing :
    (inferInstance : Disk (Restricted .nothing)) = (inferInstance : Disk (StateM FileTree)) := by
  have happend : ∀ path bytes, (modifyGet (Refusals.nothing.append · path bytes) : StateM FileTree _) =
      FileTree.change (·.append path bytes) := by
    intro path bytes
    funext tree
    exact (append_nothing tree path bytes).trans (run_change (·.append path bytes) tree).symm
  simp only [inferInstance, instDisk, FileTree.instDiskStateM, read_nothing, openWith_nothing, happend]
  rfl

end Restricted

/-! ## What opening and writing do to an entry -/

namespace Refusals

open FileTree (changed)

variable (refusals : Refusals)

/-- The entry of a place after a file has been opened for writing there. -/
def opened (truncate : Bool) (place : Place) (entry : Option Entry) : Except DiskError Entry := do
  permit (refusals.opening place)
  match entry with
  | some .directory => .error .isDirectory
  | some .full => .ok .full
  | some (.file contents) => .ok (.file (if truncate then .empty else contents))
  | none => .ok (.file .empty)

/-- What comes of adding bytes at the end of an entry, and the entry afterwards. -/
def added (bytes : ByteArray) : Entry → Except DiskError Unit × Entry
  | .directory => (.error .isDirectory, .directory)
  | .full => (if bytes.isEmpty then .ok () else .error .noSpace, .full)
  | .file contents => (.ok (), .file (contents ++ bytes))

/-- What comes of adding bytes to the file at a place, and its entry afterwards. -/
def appended (place : Place) (entry : Entry) (bytes : ByteArray) : Except DiskError Unit × Entry :=
  match refusals.writingOf place bytes with
  | none => added bytes entry
  | some short => (.error short.cause, (added (bytes.extract 0 short.taken) entry).2)

/-- The change of a tree is refused with the error, or puts the entry in its place. -/
def Puts (tree : FileTree) (place : Place) : Except DiskError Entry → Except DiskError FileTree → Prop
  | .error error, change => change = .error error
  | .ok entry, change => ∃ after, change = .ok after ∧ tree.IsUpdate place (some entry) after

variable {tree : FileTree} {path : Path} {place : Place}

theorem read_congr {after : FileTree} (h : after.find path = tree.find path) :
    refusals.read after path = refusals.read tree path := by
  rw [read, read, h, FileTree.read_congr h]

theorem openWith_of_not_located {truncate : Bool} {error : DiskError}
    (h : tree.locateFile path = .error error) :
    refusals.openWith tree truncate path = .error error := by
  rw [openWith, h]
  rfl

theorem puts_openWith (truncate : Bool) (h : tree.locateFile path = .ok place) :
    Puts tree place (refusals.opened truncate place (tree.entry? place))
      (refusals.openWith tree truncate path) := by
  obtain ⟨name, outer, rfl, -⟩ := FileTree.exists_of_locateFile h
  unfold openWith opened FileTree.openWith
  simp only [h, bind, Except.bind]
  cases refusals.opening (name :: outer) with
  | some error => rfl
  | none =>
      cases hentry : tree.entry? (name :: outer) with
      | none => exact ⟨_, rfl, tree.isUpdate_insert name outer _⟩
      | some entry =>
          cases entry with
          | directory => rfl
          | full => exact ⟨tree, rfl, hentry ▸ tree.isUpdate_self _⟩
          | file contents => exact ⟨_, rfl, tree.isUpdate_insert name outer _⟩

theorem find_of_located {entry : Entry} (h : tree.locateFile path = .ok place)
    (hentry : tree.entry? place = some entry) : tree.find path = .ok (place, entry) := by
  unfold FileTree.find
  simp only [FileTree.locate_of_locateFile h, bind, Except.bind, hentry]

theorem changed_append {entry : Entry} (h : tree.locateFile path = .ok place)
    (hentry : tree.entry? place = some entry) (bytes : ByteArray) :
    ∃ after, changed tree (tree.append path bytes) = ((added bytes entry).1, after) ∧
      tree.IsUpdate place (some (added bytes entry).2) after := by
  obtain ⟨name, outer, rfl, -⟩ := FileTree.exists_of_locateFile h
  unfold FileTree.append
  simp only [find_of_located h hentry, bind, Except.bind]
  cases entry with
  | directory => exact ⟨tree, rfl, hentry ▸ tree.isUpdate_self _⟩
  | full =>
      refine ⟨tree, ?_, hentry ▸ tree.isUpdate_self _⟩
      cases hempty : bytes.isEmpty <;> simp [added, changed, hempty]
  | file contents => exact ⟨_, rfl, tree.isUpdate_insert name outer _⟩

theorem append_of_located {entry : Entry} (h : tree.locateFile path = .ok place)
    (hentry : tree.entry? place = some entry) (bytes : ByteArray) :
    ∃ after, refusals.append tree path bytes = ((refusals.appended place entry bytes).1, after) ∧
      tree.IsUpdate place (some (refusals.appended place entry bytes).2) after := by
  unfold append appended
  simp only [find_of_located h hentry]
  cases refusals.writingOf place bytes with
  | none => exact changed_append h hentry bytes
  | some short =>
      obtain ⟨after, hchanged, hupdate⟩ := changed_append h hentry (bytes.extract 0 short.taken)
      exact ⟨after, by simp only [hchanged], hupdate⟩

/-- What opening a file can do: nothing is refused, and there is no directory. -/
theorem opened_eq_ok_iff {truncate : Bool} {entry : Option Entry} {new : Entry} :
    refusals.opened truncate place entry = .ok new ↔ refusals.opening place = none ∧
      (entry = none ∧ new = .file .empty ∨ entry = some .full ∧ new = .full ∨
        ∃ contents, entry = some (.file contents) ∧ new = .file (if truncate then .empty else contents)) := by
  unfold opened
  cases refusals.opening place with
  | some error => simp [permit, bind, Except.bind]
  | none => rcases entry with - | - | contents | - <;> simp [permit, bind, Except.bind, eq_comm]

/-- Anything but a directory can be opened where nothing is refused. -/
theorem exists_opened (hopening : refusals.opening place = none) {entry : Option Entry}
    (hdirectory : entry ≠ some .directory) (truncate : Bool) :
    ∃ new, refusals.opened truncate place entry = .ok new := by
  unfold opened
  rw [hopening]
  rcases entry with - | - | contents | -
  · exact ⟨_, rfl⟩
  · exact absurd rfl hdirectory
  · exact ⟨_, rfl⟩
  · exact ⟨_, rfl⟩

theorem added_cases (bytes : ByteArray) (entry : Entry) :
    (∀ contents, entry ≠ .file contents) ∧ (added bytes entry).2 = entry ∨
      ∃ contents, entry = .file contents ∧ added bytes entry = (.ok (), .file (contents ++ bytes)) := by
  cases entry with
  | directory => exact .inl ⟨by simp, rfl⟩
  | full => exact .inl ⟨by simp, rfl⟩
  | file contents => exact .inr ⟨contents, rfl, rfl⟩

/-- What adding bytes to an entry can do: a file has some of the first bytes at its end, and
anything else stays as it is. -/
theorem appended_cases (place : Place) (entry : Entry) (bytes : ByteArray) :
    (∀ contents, entry ≠ .file contents) ∧ (refusals.appended place entry bytes).2 = entry ∨
      ∃ contents taken, entry = .file contents ∧
        (refusals.appended place entry bytes).2 = .file (contents ++ bytes.extract 0 taken) := by
  unfold appended
  cases refusals.writingOf place bytes with
  | none =>
      obtain hother | ⟨contents, rfl, hadded⟩ := added_cases bytes entry
      · exact .inl hother
      · refine .inr ⟨contents, bytes.size, rfl, ?_⟩
        rw [hadded, ByteArray.extract_zero_size]
  | some short =>
      obtain hother | ⟨contents, rfl, hadded⟩ := added_cases (bytes.extract 0 short.taken) entry
      · exact .inl hother
      · exact .inr ⟨contents, short.taken, rfl, congrArg Prod.snd hadded⟩

/-- When bytes are added and none is missing: a full device takes none, and a file has them at
its end. -/
theorem appended_eq_ok_iff {entry : Entry} {bytes : ByteArray} :
    (refusals.appended place entry bytes).1 = .ok () ↔ refusals.writingOf place bytes = none ∧
      (entry = .full ∧ bytes.isEmpty = true ∨ ∃ contents, entry = .file contents) := by
  unfold appended
  cases refusals.writingOf place bytes with
  | some short => simp
  | none =>
      cases entry with
      | directory => simp [added]
      | full => cases hempty : bytes.isEmpty <;> simp [added, hempty]
      | file contents => simp [added]

/-- Where a file was opened there was no directory, and there is none. -/
theorem not_directory_of_opened {truncate : Bool} {entry : Option Entry} {new : Entry}
    (h : refusals.opened truncate place entry = .ok new) :
    entry ≠ some .directory ∧ new ≠ .directory := by
  obtain ⟨-, ⟨rfl, rfl⟩ | ⟨rfl, rfl⟩ | ⟨contents, rfl, rfl⟩⟩ := refusals.opened_eq_ok_iff.mp h
  all_goals simp

theorem appended_ne_directory {entry : Entry} (h : entry ≠ .directory) (bytes : ByteArray) :
    (refusals.appended place entry bytes).2 ≠ .directory := by
  obtain ⟨-, hsame⟩ | ⟨contents, taken, -, hfile⟩ := refusals.appended_cases place entry bytes
  · rwa [hsame]
  · simp [hfile]

end Refusals

end SceneAudit
