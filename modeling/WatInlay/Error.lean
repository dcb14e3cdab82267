/-
What ends a run early.

A block that its compiler rejects is no error; it is reported and the run goes
on. An error names its cause, and `ToolError.message` is the one place that
puts causes into words.
-/

import WatInlay.OsError
import WatInlay.Path

namespace WatInlay

/-- Why a file could not be read, written or removed, or a program not
started. -/
inductive IoFault where
  /-- The operating system refused. -/
  | system (e : OsError)
  /-- The contents are not the UTF-8 form of a text. -/
  | notText
  /-- The path holds a NUL character. -/
  | pathHoldsNul
  /-- An argument, or the name of a program, holds a NUL character. -/
  | argumentHoldsNul
  /-- Any other cause, in its own words. -/
  | other (message : Text)
  deriving DecidableEq, Repr

/-- The cause in words. -/
def IoFault.message : IoFault → Text
  | system e => e.message
  | notText => "stream did not contain valid UTF-8".toList
  | pathHoldsNul => "file name contained an unexpected NUL byte".toList
  | argumentHoldsNul => "nul byte found in provided data".toList
  | other message => message

/-- The cause in words, after the path that it concerns. -/
def IoFault.messageAt (f : IoFault) (path : Path) : Text :=
  path ++ ": ".toList ++ f.message

/-- What ends a run early. -/
inductive ToolError where
  /-- No source file was named. -/
  | missingArgument
  /-- The source file's extension belongs to no dialect. -/
  | unsupportedDialect (extension : Text)
  /-- A file could not be read, written or removed. -/
  | io (message : Text)
  /-- The compiler could not be started. -/
  | compilerLaunch (program message : Text)
  /-- The configuration could not be read. -/
  | config (message : Text)
  deriving DecidableEq, Repr

namespace ToolError

/-- An error about the file at `path`. -/
def ioAt (path : Path) (f : IoFault) : ToolError :=
  .io (f.messageAt path)

/-- The name of the kind of error. -/
def code : ToolError → Text
  | missingArgument => "MissingArgument".toList
  | unsupportedDialect _ => "UnsupportedDialect".toList
  | io _ => "Io".toList
  | compilerLaunch _ _ => "CompilerLaunch".toList
  | config _ => "Config".toList

/-- What the error is about, by name; nothing for an error that needs no more
than its code. -/
def detail : ToolError → List (Text × Text)
  | missingArgument => []
  | unsupportedDialect extension => [("extension".toList, extension)]
  | io message => [("message".toList, message)]
  | compilerLaunch program message =>
    [("program".toList, program), ("message".toList, message)]
  | config message => [("message".toList, message)]

/-- The error in words, for people. -/
def message : ToolError → Text
  | missingArgument => "Missing FILE argument".toList
  | unsupportedDialect extension =>
    if extension.isEmpty then "File extension not supported".toList
    else "File extension not supported: .".toList ++ extension
  | io message => "I/O error: ".toList ++ message
  | compilerLaunch program message =>
    "Failed to run ".toList ++ program ++ ": ".toList ++ message
  | config message => "Invalid config: ".toList ++ message

end ToolError

end WatInlay
