/-
The programs that can be started: scripts for the shell, found by their names.
-/

import WatInlay.Script.Interpreter
import WatInlay.Session

namespace WatInlay

open Script

/-- Starts the program of a name. It reads nothing, and the files are
all that it leaves besides its exit. -/
def Script.Environment.launch (env : Environment) : Launcher := fun program arguments files =>
  if '\x00' ∈ program ∨ arguments.any ('\x00' ∈ ·) then .error .argumentHoldsNul
  else
    let words := (program :: arguments).map Raw.ofText
    match env.startNamed files program { words, bindings := env.exported } with
    | .error e => .error e
    | .ok (.ended status message) =>
      .ok ({ success := status == 0, errors := Text.bytes message }, files)
    | .ok (.shell words) =>
      let (ending, s) := (Eval.runShell env stepBound words).run.run (Shell.fresh env files)
      let success := match ending with
        | .ok ending => ending.status == 0
        | .error _ => false
      .ok ({ success, errors := Raw.toBytes s.errors }, { s.files with here := files.here })

end WatInlay
