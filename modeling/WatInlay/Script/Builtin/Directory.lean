/-
The builtins that deal with the working directory and with what new files are
denied.
-/

import WatInlay.Script.Builtin.Option

namespace WatInlay.Script

/-! ### The path of the working directory -/

namespace Directory

/-- The path of a place. -/
def ofPlace (place : Place) : Raw :=
  '/' :: Raw.ofText (Text.joinWith ['/'] place)

/-- The path that `path` leads to from a directory, where two dots take the last name
away. Two slashes at the start are kept. -/
def follow (directory path : Raw) : Raw :=
  let names (t : Raw) : List Raw := (Raw.pieces '/' t).filter (!·.isEmpty)
  let isDouble (t : Raw) : Bool :=
    match t with
    | '/' :: '/' :: c :: _ => c != '/'
    | ['/', '/'] => true
    | _ => false
  let absolute := path.head? == some '/'
  let double := if absolute then isDouble path else isDouble directory
  let start := if absolute then [] else names directory
  let all := (names path).foldl
    (fun ns name =>
      if name == ['.'] then ns
      else if name == ['.', '.'] then ns.dropLast
      else ns ++ [name])
    start
  (if double then ['/', '/'] else ['/']) ++ Text.joinWith ['/'] all

/-- Whether a path is not looked for in other directories. -/
def isPlain (path : Raw) : Bool :=
  match path with
  | '/' :: _ => true
  | ['.'] => true
  | '.' :: '/' :: _ => true
  | ['.', '.'] => true
  | '.' :: '.' :: '/' :: _ => true
  | _ => false

end Directory

/-! ### What new files are denied -/

namespace Mask

/-- The mask as four octal digits. -/
def octal (mask : Nat) : Raw :=
  let digit (n : Nat) : Char := Char.ofNat ('0'.toNat + n % 8)
  [digit (mask / 512), digit (mask / 64), digit (mask / 8), digit mask]

/-- What the mask leaves, by class of users. -/
def symbolic (mask : Nat) : Raw :=
  let bits (n : Nat) : Raw :=
    [('r', 4), ('w', 2), ('x', 1)].filterMap fun (c, b) => if n / b % 2 = 0 then some c else none
  "u=".toList ++ bits (mask / 64) ++ ",g=".toList ++ bits (mask / 8) ++ ",o=".toList ++ bits mask

/-- What is permitted by a letter to each class of users, when `permitted` is. -/
def permission? (permitted : Nat) (c : Char) : Option Nat :=
  let all (n : Nat) : Nat := n * 73
  match c with
  | 'r' => some (all 4)
  | 'w' => some (all 2)
  | 'x' => some (all 1)
  | 'X' => some (if permitted &&& 73 = 0 then 0 else all 1)
  | 's' => some 0
  | 'u' => some (all (permitted / 64 % 8))
  | 'g' => some (all (permitted / 8 % 8))
  | 'o' => some (all (permitted % 8))
  | _ => none

/-- The permissions after signs and letters, for some classes of users. -/
def change? (n classes permitted : Nat) (t : Raw) : Option Nat :=
  match n, t with
  | 0, _ => none
  | _, [] => some permitted
  | n + 1, sign :: t =>
    if sign != '+' && sign != '-' && sign != '=' then none
    else
      let letters := t.takeWhile fun c => c != '+' && c != '-' && c != '='
      match letters.mapM (permission? permitted) with
      | none => none
      | some bits =>
        let bits := bits.foldl (· ||| ·) 0 &&& classes
        let permitted :=
          if sign == '+' then permitted ||| bits
          else if sign == '-' then permitted - (permitted &&& bits)
          else permitted - (permitted &&& classes) ||| bits
        change? n classes permitted (t.drop letters.length)

/-- The permissions after a clause: classes of users, and changes for them. Only the last
clause may be without changes. -/
def clause? (isLast : Bool) (permitted : Nat) (t : Raw) : Option Nat :=
  let users := t.takeWhile fun c => "ugoa".toList.contains c
  let ofUser (c : Char) : Nat :=
    match c with
    | 'u' => 448
    | 'g' => 56
    | 'o' => 7
    | _ => 511
  let classes := if users.isEmpty then 511 else users.foldl (fun n c => n ||| ofUser c) 0
  let rest := t.drop users.length
  if rest.isEmpty && !isLast then none else change? (t.length + 1) classes permitted rest

/-- The mask that a text describes by clauses with commas between them. -/
def ofClauses? (mask : Nat) (t : Raw) : Option Nat :=
  let clauses := Raw.pieces ',' t
  let permitted := clauses.dropLast.foldlM (clause? false) (511 - mask)
  (permitted.bind fun p => clause? true p (clauses.getLastD [])).map (511 - ·)

end Mask

namespace Eval

/-- Goes to a directory; false when there is none. -/
def enter (physical : Bool) (path : Raw) : Eval Bool := do
  let s ← get
  let target := if physical then path else Directory.follow s.directory path
  match s.tree.locate (Raw.toText target) with
  | .error _ => return false
  | .ok place =>
    if s.tree.node? place != some .folder then return false
    let directory := if physical then Directory.ofPlace place else target
    modify fun s => { s with here := place }
    setExported "OLDPWD".toList s.directory
    modify fun s => { s with directory }
    setExported "PWD".toList directory
    return true
where
  /-- Sets an exported variable. -/
  setExported (name value : Raw) : Eval Unit := do
    assign name value
    changeVariable name fun v => { v with exported := true }

/-- `cd`. -/
def cdBuiltin (args : List Raw) : Eval Nat := do
  let (options, args) ← takeOptions "LP" args
  let physical := (options.getLast?.map (·.1)) == some 'P'
  let s ← get
  let back := args.head? == some ['-']
  let path :=
    if back then s.valueOf "OLDPWD"
    else args.headD (s.valueOf "HOME")
  let path := if path.isEmpty then ['.'] else path
  let directories :=
    match s.value? "CDPATH".toList with
    | some t => if Directory.isPlain path then [] else Raw.pieces ':' t
    | none => []
  let mut found : Option Raw := none
  for directory in directories do
    let candidate := Raw.ofText (Path.join (Raw.toText directory) (Raw.toText path))
    if found.isNone && s.tree.find? (Raw.toText candidate) == some .folder then
      found := some candidate
  let target := found.getD path
  if ← enter physical target then
    if back || target != path then
      print ((← get).directory ++ ['\n'])
      return 0
    return 0
  die ("can't cd to ".toList ++ path)

/-- `pwd`. -/
def pwdBuiltin (args : List Raw) : Eval Nat := do
  let (options, _) ← takeOptions "LP" args
  let physical := (options.getLast?.map (·.1)) == some 'P'
  let s ← get
  let path := if physical then Directory.ofPlace s.here else s.directory
  print (path ++ ['\n'])
  return 0

/-- `umask`. -/
def umaskBuiltin (args : List Raw) : Eval Nat := do
  let (options, args) ← takeOptions "S" args
  let mask := (← get).mask
  match args with
  | [] =>
    let text := if options.isEmpty then Mask.octal mask else Mask.symbolic mask
    print (text ++ ['\n'])
    return 0
  | t :: _ =>
    let new ←
      if t.head?.any Char.isDigit then
        match Numeral.octal? t with
        | some n => pure (n % 512)
        | none => die ("Illegal number: ".toList ++ t)
      else
        match Mask.ofClauses? mask t with
        | some n => pure n
        | none => die ("Illegal mode: ".toList ++ t)
    modify fun s => { s with mask := new }
    return 0

end Eval

end WatInlay.Script
