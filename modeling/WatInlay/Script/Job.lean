/-
Processes and jobs: how programs end, what signals do, and the commands that are
set aside for the background.
-/

import WatInlay.Script.Eval

namespace WatInlay.Script

namespace Eval

/-! ### Signals -/

/-- Receives the signals that are on their way to the process that runs. -/
def receiveAll : Eval Unit := do
  let s ← get
  let mine := s.sent.filter (·.1 == s.id)
  if !mine.isEmpty then
    set { s with sent := s.sent.filter (·.1 != s.id) }
    for (_, signal) in mine do
      receive signal

/-- Sends a signal; false when there is no such process. -/
def send (id : Nat) (signal : Signal) : Eval Bool := do
  let s ← get
  if !s.alive.contains id then return false
  if id == s.id then receive signal
  else if signal != 0 then
    set { s with sent := s.sent ++ [(id, signal)] }
  return true

/-- Sends a signal to all processes. -/
def sendToAll (signal : Signal) : Eval Unit := do
  let s ← get
  let others := if signal == 0 then [] else s.alive.filter (· != s.id)
  set { s with sent := s.sent ++ others.map fun id => (id, signal) }
  receive signal

/-- Says which signal has ended a process that this one waited for, and answers its
status. -/
def notice (ending : Ending) : Eval Nat := do
  if let .killed signal := ending then
    if !Signal.isSilent signal then
      let _ ← put 2 (signal.description ++ ['\n'])
  receive Signal.childEnded
  return ending.status

/-! ### Jobs -/

/-- A number for a new job. The first job that is over and has been asked for gives
its number up. -/
def takeNumber : Eval Nat := do
  let s ← get
  let free (n : Nat) : Bool :=
    match s.jobs.find? (·.number == n) with
    | none => true
    | some j => j.reported && j.state matches .ended _
  let n := ((List.range (s.jobs.length + 1)).map (· + 1)).find? free |>.getD 1
  set { s with jobs := s.jobs.filter (·.number != n) }
  return n

/-- Sets a command aside for the background. -/
def addJob (process : Process) (command : Command) : Eval Unit := do
  let number ← takeNumber
  modify fun s =>
    { s with
      jobs := { number, id := process.id, command, state := .waiting process } :: s.jobs
      lastJob := some process.id }

/-- Replaces a job. -/
def setJob (j : Job) : Eval Unit :=
  modify fun s => { s with jobs := s.jobs.map fun k => if k.number == j.number then j else k }

/-- Forgets a job. -/
def forgetJob (j : Job) : Eval Unit :=
  modify fun s => { s with jobs := s.jobs.filter (·.number != j.number) }

/-- The job that an argument with a percent sign names. -/
def jobNamed (t : Raw) : Eval Job := do
  let jobs := (← get).jobs
  let name := t.drop 1
  if t == ['%'] || t == "%%".toList || t == "%+".toList then
    match jobs with
    | j :: _ => return j
    | [] => die "No current job".toList
  else if t == "%-".toList then
    match jobs with
    | _ :: j :: _ => return j
    | _ => die "No previous job".toList
  else
    let found :=
      if t.head? == some '%' && !name.isEmpty && name.all Char.isDigit then
        jobs.find? (·.number == Text.decimalValue name)
      else none
    match found with
    | some j => return j
    | none => die ("No such job: ".toList ++ t)

/-- The line about a job. -/
def jobLine (withId : Bool) (j : Job) : Eval Raw := do
  let jobs := (← get).jobs
  let mark :=
    if (jobs.head?.map (·.number)) == some j.number then '+'
    else if (jobs[1]?.map (·.number)) == some j.number then '-'
    else ' '
  let state := match j.state with
    | .waiting _ => "Running".toList
    | .ended ending => ending.description
  let line := '[' :: Text.ofNat j.number ++ "] ".toList ++ [mark, ' '] ++
    (if withId then Text.ofNat j.id ++ [' '] else []) ++ state
  let stages := match j.command with
    | .pipe cs => (List.replicate (cs.length - 1) " | ".toList).flatten
    | _ => []
  return line ++ List.replicate (max 1 (33 - line.length)) ' ' ++ stages ++ ['\n']

end Eval

end WatInlay.Script
