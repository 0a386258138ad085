import SceneAudit.Path

/-!
# The command line

`run` goes over a project, and `hierarchy` prints the hierarchy of one scene.  Options may stand in any order; those on
the log may stand before the command as well.  A single option must not be given twice.  Arguments are read from left
to right, and the first that asks for help or is wrong decides.
-/

namespace SceneAudit

/-- What a run is to do, as the command line says it. -/
structure RunOptions where
  project : Path
  output : Path
  config : Option Path
  threads : Option Nat
  /-- Whether the report keeps its earlier contents. -/
  append : Bool
  /-- Whether the summary is printed as JSON. -/
  json : Bool
deriving DecidableEq

inductive Command where
  | run (options : RunOptions)
  | hierarchy (scene : Path)
deriving DecidableEq

/-- Why the command line names no command to carry out. -/
inductive Detour where
  | help
  | version
  /-- The arguments are wrong. -/
  | usage
deriving DecidableEq

namespace Command

/-! ## Single arguments -/

/-- What an argument looks like. -/
inductive Shape where
  /-- The mark that ends the options. -/
  | separator
  /-- An option with its full name, perhaps with a value attached. -/
  | long (name : String) (value : Option String)
  /-- Options of one letter each. -/
  | letters (letters : List Char)
  | plain (text : String)
deriving DecidableEq

/-- What an argument looks like.  A single dash is no option. -/
def shapeOf (argument : String) : Shape :=
  match argument.toList with
  | ['-', '-'] => .separator
  | '-' :: '-' :: rest =>
    match rest.dropWhile (· != '=') with
    | [] => .long (String.ofList rest) none
    | _ :: value => .long (String.ofList (rest.takeWhile (· != '='))) (some (String.ofList value))
  | '-' :: c :: rest => .letters (c :: rest)
  | _ => .plain argument

/-- Whether an argument may be the value of the option before it. -/
def isValue (argument : String) : Bool :=
  shapeOf argument = .plain argument

/-- A path that is not empty. -/
def path? (text : String) : Except Detour Path :=
  if text = "" then .error .usage else .ok ⟨text⟩

/-- A number of workers: digits, perhaps with a plus before them. -/
def count? (text : String) : Except Detour Nat :=
  let digits :=
    match text.toList with
    | '+' :: rest => rest
    | cs => cs
  let value := digits.foldl (fun value digit => value * 10 + (digit.toNat - '0'.toNat)) 0
  if digits.isEmpty || !digits.all Char.isDigit || value ≥ Nat.pow 2 64 then .error .usage else .ok value

/-- Sets what must not be set twice. -/
def once {α : Type} (earlier : Option α) (value : α) : Except Detour (Option α) :=
  if earlier.isSome then .error .usage else .ok (some value)

/-- Reads options of one letter; only some places know the letter for the version. -/
def readLetters (knowsVersion : Bool) : List Char → Except Detour Unit
  | [] => .ok ()
  | c :: rest =>
    if c = 'v' then readLetters knowsVersion rest
    else if c = 'h' then .error .help
    else if c = 'V' && knowsVersion then .error .version
    else .error .usage

/-- Reads an option that every place knows; the flag for the form of the log may be given once. -/
def readShared (logJson : Bool) (name : String) (value : Option String) : Except Detour Bool :=
  if value.isSome then .error .usage
  else if name = "verbose" then .ok logJson
  else if name = "log-json" then if logJson then .error .usage else .ok true
  else if name = "help" then .error .help
  else .error .usage

/-! ## The options of a run -/

/-- The options of a run as far as they have been read. -/
structure Given where
  project : Option Path := none
  output : Option Path := none
  config : Option Path := none
  threads : Option Nat := none
  append : Option Unit := none
  json : Option Unit := none
  logJson : Bool := false

namespace Given

/-- Sets an option that has a value. -/
def setValue (given : Given) (name value : String) : Except Detour Given := do
  if name = "project" then return { given with project := ← once given.project (← path? value) }
  else if name = "output" then return { given with output := ← once given.output (← path? value) }
  else if name = "config" then return { given with config := ← once given.config (← path? value) }
  else return { given with threads := ← once given.threads (← count? value) }

/-- Sets an option that has no value. -/
def setFlag (given : Given) (name : String) (value : Option String) : Except Detour Given := do
  if name = "append" && value.isNone then return { given with append := ← once given.append () }
  else if name = "json" && value.isNone then return { given with json := ← once given.json () }
  else return { given with logJson := ← readShared given.logJson name value }

/-- The options when all arguments have been read. -/
def finish (given : Given) : Except Detour RunOptions :=
  match given.project, given.output with
  | some project, some output =>
    .ok ⟨project, output, given.config, given.threads, given.append.isSome, given.json.isSome⟩
  | _, _ => .error .usage

end Given

/-- The options of a run that have a value. -/
def valueOptions : List String := ["project", "output", "config", "threads"]

/-- Reads the arguments of a run. -/
def readRun (given : Given) : List String → Except Detour RunOptions
  | [] => given.finish
  | argument :: rest =>
    match shapeOf argument with
    | .separator => if rest.isEmpty then given.finish else .error .usage
    | .plain _ => .error .usage
    | .letters letters => do
      readLetters false letters
      readRun given rest
    | .long name value =>
      if valueOptions.contains name then
        match value with
        | some value => do readRun (← given.setValue name value) rest
        | none =>
          match rest with
          | next :: further => do
            if isValue next then readRun (← given.setValue name next) further else .error .usage
          | [] => .error .usage
      else do
        readRun (← given.setFlag name value) rest

/-! ## The argument of a hierarchy -/

/-- The scene when all arguments have been read. -/
def theScene (scenes : List String) : Except Detour Path :=
  match scenes with
  | [scene] => path? scene
  | _ => .error .usage

/-- Reads the arguments of a hierarchy, of which the scene may have come already. -/
def readHierarchy (logJson : Bool) (scene : Option Path) : List String → Except Detour Path
  | [] =>
    match scene with
    | some scene => .ok scene
    | none => .error .usage
  | argument :: rest =>
    match shapeOf argument with
    | .separator =>
      match scene, rest with
      | some scene, [] => .ok scene
      | none, _ => theScene rest
      | _, _ => .error .usage
    | .plain text => do readHierarchy logJson (← once scene (← path? text)) rest
    | .letters letters => do
      readLetters false letters
      readHierarchy logJson scene rest
    | .long name value => do
      readHierarchy (← readShared logJson name value) scene rest

/-! ## The command -/

/-- Reads the arguments of the command that explains the others. -/
def readHelp (arguments : List String) : Detour :=
  match arguments with
  | [] | ["run"] | ["hierarchy"] | ["help"] => .help
  | _ => .usage

/-- Reads all arguments. -/
def read (logJson : Bool) : List String → Except Detour Command
  | [] => .error .usage
  | argument :: rest =>
    match shapeOf argument with
    | .separator => .error .usage
    | .plain "run" => do return .run (← readRun {} rest)
    | .plain "hierarchy" => do return .hierarchy (← readHierarchy false none rest)
    | .plain "help" => .error (readHelp rest)
    | .plain _ => .error .usage
    | .letters letters => do
      readLetters true letters
      read logJson rest
    | .long "version" none => .error .version
    | .long name value => do
      read (← readShared logJson name value) rest

/-- The command that the arguments of the program name. -/
def ofArguments (arguments : List String) : Except Detour Command :=
  read false arguments

end Command

end SceneAudit
