/-
Expanding words: parameters, commands and arithmetic give way to their values,
and a tilde to a home directory.

What commands print is an argument of these functions, since executing commands
is no matter of words. `expandFields` splits the values and puts file names in;
`expandWhole` makes one text of a word.
-/

import WatInlay.Script.Arithmetic
import WatInlay.Script.Eval
import WatInlay.Script.Field
import WatInlay.Script.Trim

namespace WatInlay.Script.Eval

/-- What becomes of a word. -/
structure Manner where
  /-- Whether it becomes fields, so that arguments stay apart. -/
  fields : Bool := false
  /-- Whether a tilde counts also after a colon, as in values. -/
  value : Bool := false
  /-- Whether its literal characters may separate fields. -/
  splits : Bool := false

/-! ### Home directories -/

/-- The home directory of a user; without a name, that of the variable `HOME`. -/
def homeOf? (s : Shell) (user : Raw) : Option Raw :=
  if user.isEmpty then s.value? "HOME".toList
  else if user == "root".toList then some "/root".toList
  else none

/-- The items of an unquoted literal text, with home directories for tildes. A
tilde counts at the start of the word, and in a value after a colon; the name
after it ends at a slash, and in a value at a colon, or with the text when
`isLast`. The bound is the number of characters. -/
def tildeItems (s : Shell) (m : Manner) (isLast : Bool) (n : Nat) (atStart : Bool)
    (t : Raw) : List Item :=
  match n, t with
  | 0, t => [.text t false m.splits]
  | n + 1, t =>
    let ends (c : Char) : Bool := c == '/' || (m.value && c == ':')
    let home? : Option (Raw × Raw) :=
      match atStart, t with
      | true, '~' :: t =>
        let user := t.takeWhile (!ends ·)
        let rest := t.drop user.length
        if rest.isEmpty && !isLast then none
        else (homeOf? s user).map fun home => (home, rest)
      | _, _ => none
    let (items, t) : List Item × Raw := match home? with
      | some (home, rest) => (if home.isEmpty then [] else [.text home true false], rest)
      | none => ([], t)
    let run := if m.value then t.takeWhile (· != ':') else t
    let rest := t.drop run.length
    items ++ .text (run ++ rest.take 1) false m.splits ::
      if rest.isEmpty then [] else tildeItems s m isLast n true (rest.drop 1)

/-! ### Parameters -/

/-- A parameter without a value in a setting that asks for one. -/
def dieUnset {α : Type} (name : Raw) : Eval α :=
  die (name ++ ": parameter not set".toList)

/-- The value of a parameter. The arguments stay apart where fields are made. -/
def pieces? (m : Manner) (quoted : Bool) (name : Raw) : Eval (Option (List Raw)) := do
  if m.fields && (name == ['@'] || (name == ['*'] && !quoted)) then
    return some (← get).arguments.values
  else return (← parameter? name).map ([·])

/-- Whether a value counts as none. -/
def isMissing (colon : Bool) : Option (List Raw) → Bool
  | none => true
  | some pieces => colon && pieces.length ≤ 1 && pieces.all (·.isEmpty)

/-- The items of a parameter's value, with a mark where quoted arguments end. -/
def itemsOf (m : Manner) (quoted : Bool) (name : Raw) (pieces : List Raw) : List Item :=
  let between : Item := if quoted then .boundary else .gap
  let isSpread := m.fields && quoted && name == ['@'] && !pieces.isEmpty
  (pieces.map (Item.ofValue quoted)).intersperse between ++ if isSpread then [.spread] else []

/-! ### Words -/

mutual

/-- The items of a word. -/
def expandParts (capture : Command → Eval Raw) (m : Manner) (atStart : Bool) :
    List Part → Eval (List Item)
  | [] => return []
  | part :: parts => do
    let items ← expandPart capture m atStart parts.isEmpty part
    let rest ← expandParts capture m false parts
    return if rest.isEmpty then items else items ++ rest

/-- The items of a part of a word. -/
def expandPart (capture : Command → Eval Raw) (m : Manner) (atStart isLast : Bool) :
    Part → Eval (List Item)
  | .text quoted t => do
    if !quoted && t.contains '~' then
      return tildeItems (← get) m isLast (t.length + 1) atStart t
    else return [.text t quoted m.splits]
  | .parameter quoted name modifier => expandParameter capture m quoted name modifier
  | .arithmetic quoted expression => do
    let t := Item.plain (← expandParts capture {} false expression)
    let (v, assigned) := Arithmetic.compute (← get).value? t
    for (name, v) in assigned do
      assign name (toString v).toList
    match v with
    | .error .overflow => throw (.killed Signal.arithmetic)
    | .error fault => die (fault.message t)
    | .ok v => return [.ofValue quoted (toString v).toList]
  | .output quoted commands => do
    let t ← capture commands
    return [.ofValue quoted (Text.dropEndWhile (· == '\n') t)]

/-- The items of a parameter with its modifier. -/
def expandParameter (capture : Command → Eval Raw) (m : Manner) (quoted : Bool) (name : Raw) :
    Modifier → Eval (List Item)
  | .plain => do
    match ← pieces? m quoted name with
    | some value => return itemsOf m quoted name value
    | none =>
      let _ ← required name
      return [.text [] quoted false]
  | .length => do
    let value ← required name
    let length := Text.ofNat ((← parameter? name).getD []).length
    return if value.isEmpty then [.ofValue quoted length] else itemsOf m quoted name [length]
  | .orElse colon word => do
    let value ← pieces? m quoted name
    if isMissing colon value then
      expandParts capture { m with splits := !quoted } true word
    else return itemsOf m quoted name (value.getD [])
  | .orAssign colon word => do
    let value ← pieces? m quoted name
    if isMissing colon value then
      let v := Item.plain (← expandParts capture {} true word)
      assignNamed name v
      return [.ofValue quoted v]
    else return itemsOf m quoted name (value.getD [])
  | .orFail colon word => do
    let value ← pieces? m quoted name
    if isMissing colon value then
      let message := Item.plain (← expandParts capture {} true word)
      let message :=
        if !word.isEmpty then message
        else if colon then "parameter not set or null".toList
        else "parameter not set".toList
      die (name ++ ": ".toList ++ message)
    else return itemsOf m quoted name (value.getD [])
  | .ifSet colon word => do
    if isMissing colon (← pieces? m quoted name) then return [.text [] quoted false]
    else expandParts capture { m with splits := !quoted } true word
  | .dropStart longest pattern => do
    let value ← required name
    if (← pieces? m quoted name).isNone then return itemsOf m quoted name value
    let marks := Item.joined (← expandParts capture {} true pattern)
    return itemsOf m quoted name (Trim.dropStart quoted longest marks value)
  | .dropEnd longest pattern => do
    let value ← required name
    if (← pieces? m quoted name).isNone then return itemsOf m quoted name value
    let marks := Item.joined (← expandParts capture {} true pattern)
    return itemsOf m quoted name (Trim.dropEnd quoted longest marks value)
  | .bad => die "Bad substitution".toList
where
  /-- The value of a parameter that must have one, if the shell is to insist on
  that. -/
  required (name : Raw) : Eval (List Raw) := do
    match ← pieces? m quoted name with
    | some value => return value
    | none =>
      if (← get).has .nounset then dieUnset name
      return [[]]

end

/-- A word as one field, in which some characters may be quoted. -/
def expandMarks (capture : Command → Eval Raw) (word : Word) : Eval (List Mark) :=
  return Item.joined (← expandParts capture {} true word)

/-- A word as one text. -/
def expandWhole (capture : Command → Eval Raw) (word : Word) : Eval Raw :=
  return Item.plain (← expandParts capture {} true word)

/-- A word as the value of a variable. -/
def expandValue (capture : Command → Eval Raw) (word : Word) : Eval Raw :=
  return Item.plain (← expandParts capture { value := true } true word)

/-- A document as one text. -/
def expandDocument (capture : Command → Eval Raw) (word : Word) : Eval Raw :=
  return Item.plain (← expandParts capture {} false word)

/-- The fields of a word, file names put in for patterns. -/
def expandWord (capture : Command → Eval Raw) (word : Word) : Eval (List Raw) := do
  let items ← expandParts capture { fields := true } true word
  let s ← get
  let fields := fieldsOf s.separators items
  return if s.has .noglob || !fields.any isPattern then fields.map plain
    else fields.flatMap (globbed s.tree)

/-- The fields of words. -/
def expandFields (capture : Command → Eval Raw) : List Word → Eval (List Raw)
  | [] => return []
  | word :: words => do
    let fields ← expandWord capture word
    return fields ++ (← expandFields capture words)

end WatInlay.Script.Eval
