/-
The steps of a running shell: reading and writing through descriptors,
messages, variables and parameters.
-/

import WatInlay.Script.Numeral
import WatInlay.Script.Shell

namespace WatInlay.Script.Eval

/-- Runs a step and answers why it stopped, if it did. -/
def catching (e : Eval Unit) : Eval (Option Stop) :=
  tryCatch (do e; return none) fun stop => return some stop

/-- Stops again, if there was a stop. -/
def again : Option Stop → Eval Unit
  | none => return
  | some stop => throw stop

/-- Runs a step, and another one after it even if it stops. -/
def ensuring (e after : Eval Unit) : Eval Unit := do
  let stop ← catching e
  after
  again stop

/-! ### Reading and writing -/

/-- Replaces a handle. -/
def setHandle (i : Nat) (h : Handle) : Eval Unit :=
  modify fun s => { s with handles := s.handles.setIfInBounds i h }

/-- A new handle. -/
def openHandle (h : Handle) : Eval Nat := do
  let s ← get
  set { s with handles := s.handles.push h }
  return s.handles.size

/-- Lets a descriptor lead to a handle, or to none. -/
def setDescriptor (descriptor : Nat) (handle : Option Nat) : Eval Unit :=
  modify fun s =>
    { s with descriptors :=
        (handle.map fun h => (descriptor, h)).toList ++
          s.descriptors.filter (·.1 != descriptor) }

/-- What was written to a handle that collects. -/
def collected (i : Nat) : Eval Raw := do
  match (← get).handles[i]? with
  | some { target := .collector texts, .. } => return texts.reverse.flatten
  | _ => return []

/-- What was written to a handle that leads into a pipe. -/
def piped (i : Nat) : Eval Pipe := do
  match (← get).handles[i]? with
  | some { target := .pipe p, .. } => return p
  | _ => return { free := 0 }

/-- The file at a place as one that grows. -/
def grow? (p : Place) : Eval (Option Growth) := do
  let s ← get
  match s.growing.find? (·.place == p) with
  | some g => return some g
  | none =>
    match s.settled.node? p with
    | some (.file contents executable) =>
      return some { place := p, contents, executable, size := contents.length }
    | _ => return none

/-- Lets a growing file have its contents for good. -/
def settle (p : Place) : Eval Unit :=
  modify fun s =>
    match s.growing.find? (·.place == p) with
    | some g => s.setNode p g.node
    | none => s

/-- Writes to the file at a place, in general at its end; false when there is none. -/
def writeAt (p : Place) (start : Nat) (text : Raw) : Eval Bool := do
  match ← grow? p with
  | none => return false
  | some g =>
    let s ← get
    if start = g.size then
      let g := { g with added := text :: g.added, size := g.size + text.length }
      set { s with growing := g :: s.growingBut p }
    else
      let .file bs executable := g.node | return false
      let new := bs.take start ++ List.replicate (start - bs.length) 0 ++ Raw.toBytes text ++
        bs.drop (start + text.length)
      set (s.setNode p (.file new executable))
    return true

/-- What a signal does to the process that runs. -/
def receive (signal : Signal) : Eval Unit := do
  let s ← get
  if signal == 0 || signal == 19 then return
  else if Signal.isInexorable signal then throw (.killed signal)
  else if s.deaf.contains signal then return
  else
    match s.traps.lookup signal with
    | some [] => return
    | some _ =>
      if !s.arrived.contains signal then
        set { s with arrived := signal :: s.arrived }
    | none => if !Signal.isHarmless signal then throw (.killed signal)

/-- Writes to the file at a place, no further than the process may; false when not all is
written. -/
def writeWithin (p : Place) (start : Nat) (t : Raw) : Eval Bool := do
  match (← get).limits.fileSize? with
  | none => writeAt p start t
  | some size =>
    if start + t.length ≤ size || t.isEmpty then writeAt p start t
    else
      let fits := t.take (size - start)
      if !fits.isEmpty then
        let _ ← writeAt p start fits
      receive Signal.fileTooLarge
      return false

/-- Writes through a descriptor; false when that cannot be done. What finds no room in
a pipe is read by nobody, and the process gets a signal. -/
def put (descriptor : Nat) (t : Raw) : Eval Bool := do
  match (← get).handle? descriptor with
  | none => return false
  | some (i, h) =>
    if !h.writable then return false
    match h.target with
    | .device .full => return t.isEmpty
    | .device _ => return true
    | .supply _ | .folder _ => return false
    | .collector texts =>
      setHandle i { h with target := .collector (t :: texts) }
      return true
    | .pipe p =>
      let p := if p.full then p else p.put t
      setHandle i { h with target := .pipe p }
      if p.full then receive Signal.brokenPipe
      return !p.full
    | .place p =>
      let start ← if h.append then do pure (((← grow? p).map (·.size)).getD 0) else pure h.offset
      let written ← writeWithin p start t
      if written then setHandle i { h with offset := start + t.length }
      return written

/-- What is left to read through a handle. -/
def unread (i : Nat) : Eval Bytes := do
  match (← get).handles[i]? with
  | some { target := .supply data, .. } => return data
  | some { target := .place p, readable := true, offset, .. } =>
    settle p
    match (← get).settled.node? p with
    | some (.file bs _) => return bs.drop offset
    | _ => return []
  | _ => return []

/-- Goes on reading `n` bytes further on. -/
def skip (i n : Nat) : Eval Unit := do
  match (← get).handles[i]? with
  | none => return
  | some h =>
    match h.target with
    | .supply data => setHandle i { h with target := .supply (data.drop n) }
    | _ => setHandle i { h with offset := h.offset + n }

/-! ### Messages -/

/-- Sets the status of the last command. -/
def setStatus (n : Nat) : Eval Unit :=
  modify fun s => { s with status := n }

/-- Prints a message with the name of the script, the line and the builtin
before it. -/
def complain (message : Text) : Eval Unit := do
  let s ← get
  let origin := match s.builtin with
    | some b => b ++ ": ".toList
    | none => []
  let _ ← put 2 (s.name ++ ": ".toList ++ Text.ofNat s.line ++ ": ".toList ++ origin ++
    message ++ ['\n'])

/-- Ends the script with a message, unless the error is that of a builtin. -/
def die {α : Type} (message : Text) : Eval α := do
  complain message
  setStatus 2
  throw .failure

/-- Ends the script with a message about its form. -/
def dieOfSyntax {α : Type} (line : Nat) (message : Text) : Eval α := do
  modify fun s => { s with line }
  die message

/-- The number that an argument writes. -/
def number (t : Raw) : Eval Nat := do
  match Numeral.count? t with
  | some n => return n
  | none => die ("Illegal number: ".toList ++ t)

/-- Prints to standard output, when the builtin ends. -/
def print (t : Raw) : Eval Unit :=
  modify fun s => { s with printed := t :: s.printed }

/-- Writes what was printed; false when that cannot be done. -/
def flush : Eval Bool := do
  let t := (← get).printed.reverse.flatten
  modify fun s => { s with printed := [] }
  if t.isEmpty then return true else put 1 t

/-! ### Variables -/

/-- Begins again with the arguments that `getopts` takes. -/
def restartOptions (next : Nat) : Eval Unit :=
  modify fun s => { s with arguments := { s.arguments with next, taken := none } }

/-- What follows from a new value of a variable. -/
def noticeChange (name : Raw) (value : Raw) : Eval Unit := do
  if name == "OPTIND".toList then
    restartOptions (max 1 (← number value))
  else if name == "PATH".toList then
    modify fun s => { s with tracked := [] }

/-- Changes a variable that may be changed. -/
def changeVariable (name : Raw) (f : Variable → Variable) : Eval Unit := do
  let v := ((← get).bindings.lookup name).getD {}
  if v.fixed then die (name ++ ": is read only".toList)
  modify fun s => s.setVariable name (some (f v))

/-- Gives a variable a value, from which nothing follows. -/
def store (name value : Raw) : Eval Unit := do
  let all := (← get).has .allexport
  changeVariable name fun v => { v with value := some value, exported := v.exported || all }

/-- Gives a variable a value. -/
def assign (name value : Raw) : Eval Unit := do
  let fixed := (((← get).bindings.lookup name).getD {}).fixed
  if !fixed then noticeChange name value
  store name value

/-- The name of a variable that a text names, up to an equals sign, or a complaint that
it names none. -/
def variableName (t : Raw) : Eval Raw := do
  let name := (splitAssignment t).1
  if isName name then return name else die (name ++ ": bad variable name".toList)

/-- Gives the variable that a text names a value. -/
def assignNamed (t value : Raw) : Eval Unit := do
  assign (← variableName t) value

/-- Takes a variable's value away. -/
def unassign (name : Raw) : Eval Unit := do
  match (← get).bindings.lookup name with
  | none => return
  | some v =>
    if v.fixed then die (name ++ ": is read only".toList)
    noticeChange name []
    modify fun s => s.setVariable name none

/-- Keeps what a variable is, to be restored at the end of the function. -/
def keep (name : Raw) : Eval Unit :=
  modify fun s =>
    let before : Saved := .binding name (s.bindings.lookup name)
    { s with saved := some (before :: s.saved.getD []) }

/-- Restores what was kept. -/
def restore (saved : List Saved) : Eval Unit := do
  for item in saved do
    match item with
    | .switches before => modify fun s => { s with switches := before }
    | .binding name before =>
      match before with
      | some v =>
        modify fun s => s.setVariable name (some v)
        noticeChange name (v.value.getD [])
      | none =>
        modify fun s => s.setVariable name none

/-- Runs a step with a place to keep what it changes, and restores that. -/
def withScope (e : Eval Unit) : Eval Unit := do
  let outer := (← get).saved
  modify fun s => { s with saved := some [] }
  ensuring e do
    let saved := (← get).saved.getD []
    modify fun s => { s with saved := outer }
    restore saved

/-! ### Parameters -/

/-- The value of a parameter: a variable, an argument or a property of the
shell. The arguments together are joined by the first separator. -/
def parameter? (name : Raw) : Eval (Option Raw) := do
  let s ← get
  match name with
  | ['#'] => return some (Text.ofNat s.arguments.values.length)
  | ['?'] => return some (Text.ofNat s.status)
  | ['$'] => return some (Text.ofNat s.root)
  | ['!'] => return s.lastJob.map Text.ofNat
  | ['-'] => return some (Switch.letters s.switches)
  | ['@'] | ['*'] =>
    return some (Text.joinWith (s.separators.take 1) s.arguments.values)
  | _ =>
    if !name.isEmpty && name.all Char.isDigit then
      match Text.decimalValue name with
      | 0 => return some s.name
      | n + 1 => return s.arguments.values[n]?
    else return s.value? name

end WatInlay.Script.Eval
