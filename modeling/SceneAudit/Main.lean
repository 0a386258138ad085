import SceneAudit.Command

/-!
# The program

The disk of the machine as a disk of the library, and the program itself, which carries out what its arguments say.
-/

namespace SceneAudit

/-- The number of a system error, which may be given with a minus in 32 bits. -/
def unsignedNumber (number : UInt32) : Nat :=
  if number < 0x80000000 then number.toNat else (0 - number).toNat

/-- The number of the system error behind a failed action. -/
def systemNumber : IO.Error → Nat
  | .alreadyExists _ number _ | .invalidArgument _ number _ | .permissionDenied _ number _
  | .resourceExhausted _ number _ | .inappropriateType _ number _ | .noSuchThing _ number _
  | .interrupted _ number _ | .noFileOrDirectory _ number _ | .otherError number _ | .resourceBusy number _
  | .resourceVanished number _ | .unsupportedOperation number _ | .hardwareFault number _
  | .unsatisfiedConstraints number _ | .illegalOperation number _ | .protocolError number _
  | .timeExpired number _ => unsignedNumber number
  | .unexpectedEof | .userError _ => 5

/-- The outcome of an action that may fail. -/
def attempt {α : Type} (action : IO α) : IO (Except DiskError α) := do
  try
    return .ok (← action)
  catch error =>
    return .error (.system (systemNumber error))

/-- Whether there is a directory at the path. -/
def isDirectoryOnDisk (path : Path) : IO Bool := do
  if path.text = "" then return false
  ((← IO.currentDir) / path.text).isDir

/-- The regular files in a directory, or also those below it; what cannot be looked at is passed over. -/
partial def filesOnDisk (deep : Bool) (path : Path) : IO (List Path) := do
  let entries ← attempt ((← IO.currentDir) / path.text).readDir
  let mut found := []
  for entry in entries.toOption.getD #[] do
    let inner := path.join entry.fileName
    match ← attempt entry.path.symlinkMetadata with
    | .ok metadata =>
      match metadata.type with
      | .file => found := inner :: found
      | .dir => if deep then found := found ++ (← filesOnDisk deep inner)
      | _ => pure ()
    | .error _ => pure ()
  return found

/-- Opens a file for writing. -/
def openOnDisk (path : Path) (mode : IO.FS.Mode) : IO (Except DiskError Unit) :=
  attempt do
    let _ ← IO.FS.Handle.mk path.text mode

/-- Adds bytes to the end of a file. -/
def appendOnDisk (path : Path) (bytes : ByteArray) : IO (Except DiskError Unit) :=
  attempt do
    let handle ← IO.FS.Handle.mk path.text .append
    handle.write bytes
    handle.flush

/-- The disk of the machine. -/
instance : Disk IO where
  isDirectory := isDirectoryOnDisk
  files := filesOnDisk
  read path := attempt (IO.FS.readBinFile path.text)
  create path := openOnDisk path .write
  ensure path := openOnDisk path .append
  append := appendOnDisk
  makeDirectory path := attempt (IO.FS.createDir path.text)

end SceneAudit

/-- Does what the arguments say and ends with the number of the outcome. -/
def main (arguments : List String) : IO UInt32 := do
  let outcome ← SceneAudit.Command.perform arguments
  IO.eprint outcome.errors
  IO.print outcome.output
  return UInt32.ofNat outcome.exitCode
