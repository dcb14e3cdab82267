/-
Redirections: files and documents that descriptors are led to.

The words of all redirections are expanded before the first one is made, but a
document only when its turn comes. One that cannot be made ends the series with
a message. When redirections are taken back, only their own descriptors change.
-/

import WatInlay.Script.Expansion

namespace WatInlay.Script.Eval

/-- A redirection whose words are expanded. -/
inductive Opening where
  | file (descriptor : Nat) (direction : Direction) (path : Raw)
  /-- To what another descriptor leads to. -/
  | copy (descriptor source : Nat)
  | close (descriptor : Nat)
  | document (descriptor : Nat) (word : Word)

/-- The descriptor that a redirection changes. -/
def Opening.descriptor : Opening → Nat
  | file descriptor _ _ | copy descriptor _ | close descriptor | document descriptor _ => descriptor

/-- Expands the words of redirections. -/
def expandRedirects (capture : Command → Eval Raw) : List Redirect → Eval (List Opening)
  | [] => return []
  | r :: rs => do
    let opening ← match r with
      | .document descriptor key =>
        pure (Opening.document descriptor ((← get).documents[key]?.getD []))
      | .file descriptor direction word =>
        let t ← expandWhole capture word
        if direction != .duplicate then pure (Opening.file descriptor direction t)
        else
          match t with
          | ['-'] => pure (Opening.close descriptor)
          | [d] =>
            if d.isDigit then pure (Opening.copy descriptor (d.toNat - '0'.toNat))
            else dieOfSyntax (← get).readLine "Syntax error: Bad fd number".toList
          | _ => dieOfSyntax (← get).readLine "Syntax error: Bad fd number".toList
    return opening :: (← expandRedirects capture rs)

/-- A message about a file that could not be opened or created. -/
def openMessage (creating : Bool) (path : Raw) (fault : IoFault) : Text :=
  let reason : Text := match fault with
    | .system e =>
      if e = .notFound ∨ e = .notDirectory then
        if creating then "Directory nonexistent".toList else "No such file".toList
      else e.description
    | other => other.message
  (if creating then "cannot create ".toList else "cannot open ".toList) ++ path ++
    ": ".toList ++ reason

/-- An open file for a redirection to a path that is not special. -/
def openPlain (direction : Direction) (path : Raw) (text : Path) : Eval (Except Text Nat) := do
  let s ← get
  let readable := direction == .input || direction == .both
  let writable := direction != .input
  let failed (fault : IoFault) : Eval (Except Text Nat) :=
    return .error (openMessage writable path fault)
  let protect := direction == .output && s.has .noclobber
  match s.tree.locate text, s.tree.find? text, direction with
  | .ok place, some .folder, .input =>
    return .ok (← openHandle { target := .folder place, writable })
  | _, some .folder, .output =>
    if protect then return .error (openMessage false path (.system .isDirectory))
    else failed (.system .isDirectory)
  | _, some .folder, _ => failed (.system .isDirectory)
  | .error e, _, .input => failed e
  | _, none, .input => failed (.system .notFound)
  | _, found, direction =>
    if protect && found.isSome then failed (.system .alreadyExists)
    else
      let isNew := found.isNone || direction == .output || direction == .overwrite
      let files := if isNew then s.tree.write text [] else .ok s.tree
      match files.bind fun files => (files.locate text).map fun place => (files, place) with
      | .error e => failed e
      | .ok (files, place) =>
        if isNew then set { s with settled := files, growing := s.growingBut place }
        else if direction == .input then settle place
        let append := direction == .append
        return .ok (← openHandle { target := .place place, readable, writable, append })

/-- An open file for a redirection; a message when the file cannot be opened. The path
of a descriptor stands for the path of its file, or for what else it leads to. -/
def openFile (direction : Direction) (path : Raw) : Eval (Except Text Nat) := do
  let s ← get
  let text := Raw.toText path
  let failed (e : OsError) : Eval (Except Text Nat) :=
    return .error (openMessage (direction != .input) path (.system e))
  let device (d : Device) : Eval (Except Text Nat) := do
    if d == .terminal then failed .noDevice
    else
      let readable := direction == .input || direction == .both
      return .ok (← openHandle { target := .device d, readable, writable := direction != .input })
  match s.special? text with
  | none => openPlain direction path text
  | some (.device d) => device d
  | some .nothing => failed .notFound
  | some (.descriptor n) =>
    match s.handle? n with
    | none => failed .notFound
    | some (i, h) =>
      match h.target with
      | .place p | .folder p => openPlain direction path ('/' :: Text.joinWith ['/'] p)
      | .device d => device d
      | _ => return .ok i

/-- A script at a path, opened to be read. -/
def openScript (path : Raw) : Eval Nat := do
  match ← openFile .input path with
  | .ok i => return i
  | .error message => die message

/-- Makes redirections in order; a message when one cannot be made. When descriptors were
`kept` aside, one that cannot be made a copy of another is closed. -/
def redirect (capture : Command → Eval Raw) (kept : Bool) : List Opening → Eval (Option Text)
  | [] => return none
  | o :: os => do
    match o with
    | .document descriptor word =>
      let text ← expandDocument capture word
      setDescriptor descriptor (some (← openHandle { target := .supply (Raw.toBytes text) }))
      redirect capture kept os
    | .close descriptor =>
      setDescriptor descriptor none
      redirect capture kept os
    | .copy descriptor source =>
      if descriptor == source then redirect capture kept os
      else
        match (← get).handle? source with
        | some (i, _) =>
          setDescriptor descriptor (some i)
          redirect capture kept os
        | none =>
          if kept then setDescriptor descriptor none
          return some (Text.ofNat source ++ ": Bad file descriptor".toList)
    | .file descriptor direction path =>
      match ← openFile direction path with
      | .ok i =>
        setDescriptor descriptor (some i)
        redirect capture kept os
      | .error message => return some message

/-- Sets what descriptors lead to aside, before redirections change it. -/
def keepAside (os : List Opening) : Eval Unit :=
  modify fun s =>
    let own := s.descriptors.filter fun d => os.any (·.descriptor == d.1)
    { s with aside := own.map (·.2) ++ s.aside }

/-- Takes redirections back that were made in a process with these descriptors. -/
def takeBack (before : Process) (os : List Opening) : Eval Unit := do
  for o in os do
    setDescriptor o.descriptor (before.descriptors.lookup o.descriptor)
  modify fun s => { s with aside := before.aside }

/-- Makes redirections and complains about one that cannot be made; false then. -/
def redirectOrComplain (capture : Command → Eval Raw) (kept : Bool) (os : List Opening) :
    Eval Bool :=
  tryCatch
    (do
      match ← redirect capture kept os with
      | none => return true
      | some message =>
        complain message
        return false)
    fun stop => if stop == .failure then return false else throw stop

end WatInlay.Script.Eval
