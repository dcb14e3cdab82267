/-
A run over one source file.

The file is read, every block in it is compiled through two scratch files, and
the file is written back and laid out by its dialect's formatter, but only if
the pass changed it. The scratch files are removed however the run ends. Any write
may be refused, and that ends the run.
-/

import WatInlay.Config
import WatInlay.Pass
import WatInlay.Session

namespace WatInlay

/-! ### Compiling through scratch files -/

/-- The configured program as a compiler: a body is written to the scratch unit,
the program is started on it with the options, and the module is what stands in
the scratch binary afterwards. What an earlier compilation left there is removed
first, so that it is never taken for this one's. -/
def Config.compile (config : Config) (launcher : Launcher) (s : Session) (body : Text)
    (options : List Text) (refusals : Refusals := .never) : Except ToolError Outcome × Session :=
  match s.write config.unit body.bytes refusals with
  | .error e => (.error (.ioAt config.unit e), s)
  | .ok s =>
    match s.clear config.binary with
    | .error e => (.error (.ioAt config.binary e), s)
    | .ok s =>
      match s.launch launcher config.compiler (config.unit :: config.compilerOptions options) with
      | (.error e, s) => (.error (.compilerLaunch config.compiler e.message), s)
      | (.ok exit, s) =>
        if exit.success then
          match s.files.read config.binary with
          | .error e => (.error (.ioAt config.binary e), s)
          | .ok module => (.ok (.success module), s)
        else (.ok (.failure (Text.ofBytesLossy exit.errors)), s)

/-- The configured program as a compiler. -/
def Config.toCompiler (config : Config) (launcher : Launcher) (refusals : Refusals := .never) :
    Compiler Session where
  unitName := config.unit
  compile s body options := config.compile launcher s body options refusals

/-- Removes both scratch files. -/
def Config.cleanUp (config : Config) (s : Session) : Session :=
  (s.discard config.unit).discard config.binary

/-! ### Writing back -/

/-- Starts the formatter on a file. Whatever goes wrong only shows in the
answer, which says whether it succeeded. -/
def Dialect.format (d : Dialect) (launcher : Launcher) (s : Session) (path : Path) :
    Bool × Session :=
  match d.formatter with
  | [] => (false, s)
  | program :: arguments =>
    match s.launch launcher program (arguments ++ [path]) with
    | (.error _, s) => (false, s)
    | (.ok exit, s) => (exit.success, s)

/-- Writes a changed text back and formats the file; nothing happens to a file
whose text was not changed. Answers whether the formatter succeeded. -/
def Dialect.finalize (d : Dialect) (launcher : Launcher) (s : Session) (path : Path) (text : Text)
    (modified : Bool) (refusals : Refusals := .never) : Except ToolError Bool × Session :=
  if modified then
    match s.write path text.bytes refusals with
    | .error e => (.error (.ioAt path e), s)
    | .ok s =>
      let (formatted, s) := d.format launcher s path
      (.ok formatted, s)
  else (.ok false, s)

/-! ### Runs -/

/-- What a run leaves behind. -/
structure Run where
  /-- The summary, or what ended the run early. -/
  outcome : Except ToolError Summary
  /-- What was printed for people on the way. -/
  printed : Text
  session : Session

namespace Run

/-- A run that ends before any block was compiled. -/
def failed (e : ToolError) (s : Session) : Run where
  outcome := .error e
  printed := []
  session := s

/-- Processes one file with a compiler whose state is the session. -/
def onFile (launcher : Launcher) (d : Dialect) (compiler : Compiler Session) (path : Path)
    (s : Session) (refusals : Refusals := .never) : Run :=
  match s.files.readText path with
  | .error e => .failed (.ioAt path e) s
  | .ok source =>
    let pass := process path d compiler source s
    match pass.outcome with
    | .error e => { outcome := .error e, printed := pass.printed, session := pass.state }
    | .ok p =>
      let (formatted, s) := d.finalize launcher pass.state path p.text p.modified refusals
      { outcome := formatted.map fun formatted =>
          { path
            dialect := d.name
            modified := p.modified
            formatted
            counts := Counts.tally p.blocks
            blocks := p.blocks }
        printed := pass.printed
        session := s }

/-- The run up to the removal of the scratch files. -/
def uncleaned (launcher : Launcher) (config : Config) (path : Option Path) (s : Session)
    (refusals : Refusals := .never) : Run :=
  match path with
  | none => .failed .missingArgument s
  | some path =>
    match Dialect.ofPath path with
    | .error e => .failed e s
    | .ok d => onFile launcher d (config.toCompiler launcher refusals) path s refusals

end Run

/-- The whole run over the file at `path`, with the scratch files removed at its
end. -/
def run (launcher : Launcher) (config : Config) (path : Option Path) (files : FileSystem)
    (refusals : Refusals := .never) : Run :=
  let r := Run.uncleaned launcher config path { files } refusals
  { r with session := config.cleanUp r.session }

end WatInlay
