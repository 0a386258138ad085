import SceneAudit.Command.Arguments
import SceneAudit.Config.Reader
import SceneAudit.Run
import SceneAudit.Run.Json

/-!
# Carrying out commands

What a command writes and whether it succeeds.  A run prints its summary; the hierarchy of a scene goes to the output,
and what is odd about the scene to the error output.
-/

namespace SceneAudit

/-- The version of the program. -/
def version : String := "0.1.0"

/-- How talkative the log is for a number of requests to say more. -/
def logLevel (verbosity : Nat) : String :=
  match verbosity with
  | 0 => "warn"
  | 1 => "info"
  | 2 => "debug"
  | _ => "trace"

/-- What a command has written, and the number with which the program ends. -/
structure Outcome where
  exitCode : Nat
  output : String := ""
  errors : String := ""
deriving DecidableEq

namespace Outcome

/-- A command has failed for a reason. -/
def failure (reason : String) : Outcome :=
  { exitCode := 1, errors := s!"error: {reason}\n" }

end Outcome

/-! ## Reasons -/

/-- A failed run's reason with its causes, the outermost first. -/
def RunError.explanation (error : RunError) : String :=
  match error with
  | .disk _ cause => s!"run aborted: {error.message}: {cause.message}"
  | .report _ cause => s!"run aborted: {error.message}: {cause.message}: {cause.message}"

/-- The reason why a configuration could not be read, with its cause. -/
def ConfigError.explanation (error : ConfigError) : String :=
  match error with
  | .unreadable path cause => s!"io error at {path.text}: {cause.message}: {cause.message}"
  | .malformed path => s!"invalid configuration in {path.text}"

namespace Command

variable {m : Type → Type} [Monad m] [Disk m]

/-! ## Commands -/

/-- The configuration with what the command line says in its place. -/
def configure (options : RunOptions) (config : Config) : Config :=
  { config with
    projectDir := options.project
    outputDir := options.output
    threads := options.threads.or config.threads
    reportMode := if options.append then .append else config.reportMode }

/-- The configuration of a run without what the command line says. -/
def baseConfig (options : RunOptions) : m (Except ConfigError Config) :=
  match options.config with
  | some path => Config.load path
  | none => return .ok {}

/-- The printed form of a summary. -/
def printed (json : Bool) (summary : RunSummary) : String :=
  if json then summary.toJson.pretty ++ "\n" else summary.text

/-- Runs over a project and prints the summary. -/
def runProject (options : RunOptions) : m Outcome := do
  match ← baseConfig options with
  | .error error => return .failure error.explanation
  | .ok config =>
    match ← audit (configure options config) Oracle.ofDisk with
    | .error error => return .failure error.explanation
    | .ok summary => return { exitCode := 0, output := printed options.json summary }

/-- The line on the error output for a fault. -/
def faultLine (fault : Fault) : String :=
  (if fault.isNotice then "notice: " else "fault: ") ++ fault.message ++ "\n"

/-- The line on the error output for a rejected block. -/
def rejectionLine (error : RecordError) : String :=
  s!"rejected: {error.message}\n"

/-- Prints the hierarchy of a scene. -/
def printHierarchy (path : Path) : m Outcome := do
  match ← Disk.readText path with
  | .error cause => return .failure s!"reading {path.text}: {cause.message}"
  | .ok document =>
    let scene := Scene.ofDocument document
    let hierarchy := scene.hierarchy
    return {
      exitCode := 0
      output := hierarchy.dump
      errors := String.join (scene.rejected.map rejectionLine ++ hierarchy.faults.map faultLine)
    }

/-- Carries out a command. -/
def execute (command : Command) : m Outcome :=
  match command with
  | .run options => runProject options
  | .hierarchy scene => printHierarchy scene

/-! ## The program -/

/-- How the program is used. -/
def usage : String :=
  String.join [
    "Scene hierarchy dumps and unused script detection\n\n",
    "Usage: scenedump [OPTIONS] <COMMAND>\n\n",
    "Commands:\n",
    "  run        Dump every scene and write the unused script report\n",
    "  hierarchy  Print one scene's hierarchy\n",
    "  help       Print this message or the help of the given subcommand(s)\n\n",
    "Options:\n",
    "  -v, --verbose...  Raise log level (-v info, -vv debug, -vvv trace)\n",
    "      --log-json    Emit logs as JSON\n",
    "  -h, --help        Print help\n",
    "  -V, --version     Print version\n"]

/-- What the program does with its arguments. -/
def perform (arguments : List String) : m Outcome :=
  match ofArguments arguments with
  | .ok command => command.execute
  | .error .help => return { exitCode := 0, output := usage }
  | .error .version => return { exitCode := 0, output := s!"scenedump {version}\n" }
  | .error .usage => return { exitCode := 2, errors := usage }

end Command

end SceneAudit
