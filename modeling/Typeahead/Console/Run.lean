import Typeahead.Console.Arguments
import Typeahead.Console.Disk
import Typeahead.Console.Session
import Typeahead.Text.Utf8

/-!
# Runs of the console

From a command line, an environment, a disk and lines of input to what is printed, the exit code and
the disk afterwards. The log is made first, so it is there even if the settings turn out to be wrong.
-/

namespace Typeahead.Console
open Source

/-- Why a run fails. -/
inductive Trouble where
  | disk (e : DiskError)
  | settings (path : String) (e : Json.Error)
  | option (raw : String)
  | mount (e : MountError)
  deriving DecidableEq, Repr

def Trouble.message : Trouble → String
  | disk e => "I/O error: " ++ e.message
  | settings path e => "failed to read config " ++ path ++ ": " ++ e.message
  | option raw => "invalid --option " ++ Text.quote raw ++ ", expected VALUE=LABEL"
  | mount e => e.message

/-- The variables of the environment that count. -/
structure Environment where
  sourceUrl : Option String := none
  home : Option String := none
  cacheHome : Option String := none
  deriving DecidableEq, Repr

namespace Environment

/-- The file the log goes to unless the arguments name one. A cache folder has to be an absolute
path to count. -/
def logFile? (env : Environment) : Option String :=
  match env.cacheHome.filter (·.startsWith "/"), env.home.filter (!·.isEmpty) with
  | some cache, _ => some (cache ++ "/combobox/latest.log")
  | none, some home => some (home ++ "/.cache/combobox/latest.log")
  | none, none => none

end Environment

/-- The arguments, with what the environment says where they leave it open. -/
def Arguments.within (a : Arguments) (env : Environment) : Arguments :=
  { a with sourceUrl := a.sourceUrl <|> env.sourceUrl, logFile := a.logFile <|> env.logFile? }

/-- Makes the log, with the folders on the way. -/
def makeLog (d : Disk) (file : String) : Except DiskError Disk :=
  let p := Path.ofString file
  match p.parent? with
  | none => d.create p
  | some folder => (d.makeFolders folder).bind (·.create p)

/-- The settings in the bytes of a file. -/
def settingsOf (file : String) (bytes : ByteArray) : Except Trouble Settings :=
  match String.fromUTF8? bytes with
  | some text => (Settings.read text).mapError (.settings file)
  | none => .error (.disk .notText)

/-- The settings in a file. -/
def readSettings (d : Disk) (file : String) : Except Trouble Settings :=
  match d.read (.ofString file) with
  | .ok bytes => settingsOf file ⟨bytes.toArray⟩
  | .error e => .error (.disk e)

/-- A session on the field that the arguments describe, over the settings of a file; `link` tells how
the fetch stands at first. -/
def Arguments.session (a : Arguments) (file : Settings) (link : Client → Fetch) :
    Except Trouble Session :=
  match a.control with
  | .error raw => .error (.option raw)
  | .ok control =>
    match Mounted.createFromAddress control (a.settings file) link true 0 with
    | .error e => .error (.mount e)
    | .ok m => .ok (.start m)

/-- What is left of a run. -/
structure Report where
  /-- The lines printed. -/
  printed : List String
  /-- The last word, if the run failed. -/
  trouble : Option Trouble
  code : Nat
  disk : Disk
  deriving Repr

namespace Report

/-- A run that fails with the lines printed so far. -/
def failed (printed : List String) (e : Trouble) (d : Disk) : Report := ⟨printed, some e, 1, d⟩

/-- What goes to the error output. -/
def errorText (r : Report) : String := (r.trouble.map fun e => "Error: " ++ e.message ++ "\n").getD ""

end Report

variable [Engine]

/-- What is left of a session at the end of input; nothing if it never ends. -/
def Session.report? (s : Session) (d : Disk) : Option Report :=
  match s.status with
  | .stuck => none
  | .broken => some (.failed s.printed (.disk .notText) d)
  | _ => some ⟨s.close.printed, none, 0, d⟩

/-- What comes before the first line: the log is made, the settings are read and the field is mounted.
This gives a session and the disk as it is then, or the report of a run that ends here. -/
def Arguments.opening (a : Arguments) (env : Environment) (d : Disk) (link : Client → Fetch) :
    Except Report (Session × Disk) :=
  let a := a.within env
  match (a.logFile.map (makeLog d)).getD (.ok d) with
  | .error e => .error (.failed [] (.disk e) d)
  | .ok d =>
    match (a.config.map (readSettings d)).getD (.ok {}) with
    | .error e => .error (.failed [] e d)
    | .ok file =>
      match a.session file link with
      | .error e => .error (.failed [] e d)
      | .ok s => .ok (s, d)

/-- A run under the arguments given. -/
def runWith (a : Arguments) (env : Environment) (d : Disk) (link : Client → Fetch)
    (events : List Event) : Option Report :=
  match a.opening env d link with
  | .error r => some r
  | .ok (s, d) => (s.run events).report? d

/-- The name of the console and its version. -/
def versionText : String := "combobox 0.1.0"

/-- The options, as `--help` shows them. -/
def usageText : String :=
  "\n".intercalate
    ["Mount a combobox on a select field and drive it from stdin", "",
      "Usage: combobox [OPTIONS]", "",
      "Options:",
      "      --source-url <SOURCE_URL>  Endpoint returning the options [env: COMBOBOX_SOURCE_URL=]",
      "      --config <CONFIG>          JSON file with combobox settings; flags override it",
      "      --option <VALUE=LABEL>     Initial option of the backing select (repeatable)",
      "      --selected <SELECTED>      Value selected in the backing select before mounting",
      "      --name <NAME>              Name of the backing select field [default: value]",
      "      --timeout-ms <TIMEOUT_MS>  Option fetch timeout in milliseconds",
      "      --log-level <LOG_LEVEL>    off, error, warn, info, debug, trace [default: info]",
      "      --log-file <LOG_FILE>      Log file (defaults to the platform cache directory)",
      "  -h, --help                     Print help",
      "  -V, --version                  Print version"]

/-- A run with the command line given; none if it never ends. -/
def run (arguments : List String) (env : Environment) (d : Disk) (link : Client → Fetch)
    (events : List Event) : Option Report :=
  match Arguments.read arguments with
  | .run a => runWith a env d link events
  | .version => some ⟨[versionText], none, 0, d⟩
  | .help => some ⟨[usageText], none, 0, d⟩
  | .misuse => some ⟨[], none, 2, d⟩

/-! ### Lines of input -/

/-- The lines in bytes of input, the last one ended or not; none for one that is not text. -/
def inputLines (bytes : List UInt8) : List (Option String) :=
  let lines := bytes.splitOn 10
  (if lines.getLast? = some [] then lines.dropLast else lines).map fun line =>
    String.fromUTF8? ⟨line.toArray⟩

end Typeahead.Console
