/-
One invocation of the program: from arguments, environment and files to output,
exit status and files.

Errors of a run are printed and leave the exit status at zero; only a command
line that cannot be read changes it. With `--json` the summary, or the error of
the run, is also printed as JSON on standard output. What `--debug` and the logging
variable of the environment add to standard error is left out.
-/

import WatInlay.CommandLine
import WatInlay.Config.Reader
import WatInlay.Run

namespace WatInlay

/-! ### Finding the configuration -/

/-- The environment variable that names a configuration file. -/
def Config.variable : String :=
  "WAT2WASM4TESTS_CONFIG"

/-- The configuration in the file at `path`. -/
def Config.load (files : FileSystem) (path : Path) (whereabouts : Json.Whereabouts := .unsaid) :
    Except ToolError Config :=
  match files.readText path with
  | .error e => .error (.config (e.messageAt path))
  | .ok t =>
    match Config.ofText t with
    | .error fault => .error (.config (fault.message ++ whereabouts t))
    | .ok c => .ok c

/-- The configuration of a run: an explicit path wins over the environment, and
an empty value in the environment counts for nothing. -/
def Config.resolve (files : FileSystem) (explicit environment : Option Path)
    (whereabouts : Json.Whereabouts := .unsaid) : Except ToolError Config :=
  match explicit, environment with
  | some path, _ => Config.load files path whereabouts
  | none, some (c :: path) => Config.load files (c :: path) whereabouts
  | none, _ => .ok Config.standard

/-! ### Invocations -/

/-- What an invocation leaves behind. -/
structure Invocation where
  exit : Nat
  stdout : Text
  stderr : Text
  files : FileSystem

namespace Invocation

/-- The name and version of the program. -/
def versionText : Text :=
  "wat2wasm4tests 0.1.0\n".toList

/-- What `--help` prints. -/
def helpText : Text :=
  ("Compile /* wat2wasm */ comment blocks and embed the binaries as hex literals\n\n" ++
    "Usage: wat2wasm4tests [OPTIONS] [FILE]\n\n" ++
    "Arguments:\n" ++
    "  [FILE]  C++ (.cpp) or Rust (.rs) source file to update\n\n" ++
    "Options:\n" ++
    "      --config <CONFIG>  JSON config file (falls back to $WAT2WASM4TESTS_CONFIG)\n" ++
    "      --json             Print a JSON summary of every block on stdout\n" ++
    "      --debug            Log each block's options and body\n" ++
    "  -h, --help             Print help\n" ++
    "  -V, --version          Print version\n").toList

/-- The document that reports an error, its keys in ascending order. -/
def errorDocument (e : ToolError) : Json :=
  Json.sorted
    (.object [("error".toList, .ofError e), ("message".toList, .string e.message)])

/-- A text as a line. -/
def line (t : Text) : Text :=
  t ++ ['\n']

/-- The invocation whose command line could be read. -/
def ofOptions (launcher : Launcher) (environment : Option Path) (o : Options)
    (files : FileSystem) (refusals : Refusals := .never)
    (whereabouts : Json.Whereabouts := .unsaid) : Invocation :=
  match Config.resolve files o.config environment whereabouts with
  | .error e => { exit := 0, stdout := [], stderr := line e.message, files }
  | .ok config =>
    let r := run launcher config o.file files refusals
    match r.outcome with
    | .ok summary =>
      { exit := 0
        stdout := if o.json then line (Json.ofSummary summary).pretty else []
        stderr := r.printed
        files := r.session.files }
    | .error e =>
      { exit := 0
        stdout := if o.json then line (errorDocument e).pretty else []
        stderr := r.printed ++ line e.message
        files := r.session.files }

/-- The invocation with these arguments. Of an error in them the first line is
printed; the advice that the reader of the command line gives behind it is not. -/
def ofArguments (launcher : Launcher) (environment : Option Path) (arguments : List Text)
    (files : FileSystem) (refusals : Refusals := .never)
    (whereabouts : Json.Whereabouts := .unsaid) : Invocation :=
  match CommandLine.parse arguments with
  | .error e => { exit := 2, stdout := [], stderr := line e.message, files }
  | .ok .version => { exit := 0, stdout := versionText, stderr := [], files }
  | .ok .help => { exit := 0, stdout := helpText, stderr := [], files }
  | .ok (.run o) => ofOptions launcher environment o files refusals whereabouts

end Invocation

end WatInlay
