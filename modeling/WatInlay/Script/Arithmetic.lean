/-
Arithmetic expressions: integers of 64 bits, variables, and the operators of C
without increments.

An expression is read and computed at once, by precedence. The operand that a
condition leaves out is read without being computed. Every function takes a
bound on nested steps that the length of the text provides.
-/

import WatInlay.Script.Language

namespace WatInlay.Script.Arithmetic

/-- A sign or operand of an expression. -/
inductive Token where
  | number (n : Int)
  | name (t : Raw)
  | sign (t : Raw)
  /-- The end of the expression. -/
  | done
  deriving DecidableEq, Repr

/-- The variables of a computation, the token it is at and the text after that. -/
structure State where
  token : Token := .done
  rest : Raw
  /-- Values that were assigned, last ones first. -/
  assigned : List (Raw × Int) := []

/-- Why an expression has no value. -/
inductive Fault where
  /-- The expression is not well formed, or divides by zero. -/
  | expression (reason : String)
  /-- A variable holds no number. -/
  | value (t : Raw)
  /-- The quotient is no integer of 64 bits. -/
  | overflow
  deriving DecidableEq, Repr

/-- The fault in words, for the text of the expression. -/
def Fault.message (t : Raw) : Fault → Text
  | expression reason =>
    "arithmetic expression: ".toList ++ reason.toList ++ ": \"".toList ++ t ++ ['"']
  | value t => "Illegal number: ".toList ++ t
  | overflow => "Floating point exception".toList

/-- A step of a computation with a way to look variables up. What was assigned before a
fault stays assigned. -/
abbrev Computing := ReaderT (Raw → Option Raw) (ExceptT Fault (StateM State))

/-- How many integers of 64 bits there are. -/
def modulus : Nat :=
  Nat.pow 2 64

/-- The integer of 64 bits that is congruent. -/
def wrap (n : Int) : Int :=
  Int.bmod n modulus

/-- The greatest integer of 64 bits. -/
def greatest : Int :=
  Nat.pow 2 63 - 1

/-- The least integer of 64 bits. -/
def least : Int :=
  -Nat.pow 2 63

/-- The value of a digit of any base up to sixteen. -/
def digitValue (c : Char) : Nat :=
  if c.isDigit then c.toNat - '0'.toNat
  else if 'a' ≤ c ∧ c ≤ 'f' then c.toNat - 'a'.toNat + 10
  else if 'A' ≤ c ∧ c ≤ 'F' then c.toNat - 'A'.toNat + 10
  else 99

/-- The number that digits of a base write. -/
def ofDigits (base : Nat) (t : Raw) : Option Int :=
  if t.isEmpty || t.any fun c => digitValue c ≥ base then none
  else some (t.foldl (fun n c => base * n + digitValue c) 0 : Nat)

/-- The base that the start of a number shows, and how many characters show it. -/
def baseOf (t : Raw) : Nat × Nat :=
  match t with
  | '0' :: x :: c :: _ =>
    if (x == 'x' || x == 'X') && digitValue c < 16 then (16, 2) else (8, 0)
  | '0' :: _ => (8, 0)
  | _ => (10, 0)

/-- The number at the start of a text, in base eight after a zero and sixteen after
`0x`, and the text after it. -/
def takeNumber (t : Raw) : Int × Raw :=
  let (base, shown) := baseOf t
  let digits := (t.drop shown).takeWhile fun c => digitValue c < base
  ((ofDigits base digits).getD 0, t.drop (shown + digits.length))

/-- White space. -/
def isSpace (c : Char) : Bool :=
  c == ' ' || ('\t' ≤ c && c ≤ '\r')

/-- The number that the value of a variable writes. -/
def ofValue? (t : Raw) : Option Int :=
  let t := t.dropWhile isSpace
  let (sign, digits) : Int × Raw := match t with
    | '-' :: digits => (-1, digits)
    | '+' :: digits => (1, digits)
    | digits => (1, digits)
  if digits.head?.any Char.isDigit then
    let (n, rest) := takeNumber digits
    if rest.all isSpace then some (sign * n) else none
  else if t.isEmpty then some 0 else none

/-- A character of a name. -/
def isNameChar (c : Char) : Bool :=
  c == '_' || c.isAlphanum

/-- Signs of more than one character; of those that begin in the same way the
longer ones come first. -/
def longSigns : List Raw :=
  ["<<=", ">>=", "<<", ">>", "<=", ">=", "==", "!=", "&&", "||", "+=", "-=", "*=", "/=", "%=",
    "&=", "^=", "|="].map String.toList

/-- The token at the start of a text, and the text after it. -/
def takeToken (t : Raw) : Token × Raw :=
  let t := t.dropWhile fun c => c == ' ' || c == '\t' || c == '\n'
  match t with
  | [] => (.done, [])
  | c :: rest =>
    if c.isDigit then
      let (n, rest) := takeNumber t
      (.number (min n greatest), rest)
    else if isNameChar c then
      let name := t.takeWhile isNameChar
      (.name name, t.drop name.length)
    else
      match longSigns.find? (·.isPrefixOf t) with
      | some sign => (.sign sign, t.drop sign.length)
      | none => (.sign [c], rest)

/-- Goes on to the next token. -/
def advance : Computing Unit :=
  modify fun s =>
    let (token, rest) := takeToken s.rest
    { s with token, rest }

/-- Ends the computation. -/
def fail {α : Type} (reason : String) : Computing α :=
  throw (.expression reason)

/-- Goes on if the token is this sign. -/
def eat (sign : String) : Computing Bool := do
  if (← get).token = .sign sign.toList then
    advance
    return true
  else return false

/-- The value of a variable. -/
def value (name : Raw) : Computing Int := do
  match (← get).assigned.find? (·.1 == name) with
  | some (_, n) => return n
  | none =>
    match (← read) name with
    | none => return 0
    | some t =>
      match ofValue? t with
      | some n => if least ≤ n ∧ n ≤ greatest then return n else throw (.value t)
      | none => throw (.value t)

/-- The truth of a number. -/
def truth (b : Bool) : Int :=
  if b then 1 else 0

/-- A quotient or remainder, which must exist. -/
def divided (f : Int → Int → Int) (a b : Int) : Computing Int := do
  if b == 0 then fail "division by zero"
  else if a == least && b == -1 then throw .overflow
  else return f a b

/-- The result of a binary operator. -/
def apply (op : Raw) (a b : Int) : Computing Int := do
  match String.ofList op with
  | "*" => return wrap (a * b)
  | "/" => divided Int.tdiv a b
  | "%" => divided Int.tmod a b
  | "+" => return wrap (a + b)
  | "-" => return wrap (a - b)
  | "<<" => return wrap (a * Nat.pow 2 (b % 64).toNat)
  | ">>" => return wrap (a.fdiv (Nat.pow 2 (b % 64).toNat))
  | "<" => return truth (a < b)
  | "<=" => return truth (a ≤ b)
  | ">" => return truth (a > b)
  | ">=" => return truth (a ≥ b)
  | "==" => return truth (a == b)
  | "!=" => return truth (a != b)
  | "&" => return (BitVec.ofInt 64 a &&& BitVec.ofInt 64 b).toInt
  | "^" => return (BitVec.ofInt 64 a ^^^ BitVec.ofInt 64 b).toInt
  | "|" => return (BitVec.ofInt 64 a ||| BitVec.ofInt 64 b).toInt
  | _ => return b

/-- The operators that compute, from the loosest level to the tightest. -/
def levels : List (List Raw) :=
  [["|"], ["^"], ["&"], ["==", "!="], ["<=", ">=", "<", ">"], ["<<", ">>"], ["+", "-"],
    ["*", "/", "%"]].map (·.map String.toList)

/-- The operator that an assignment applies first, if the sign is an assignment's. -/
def assignment? (sign : Raw) : Option Raw :=
  if sign = ['='] then some []
  else if sign.getLast? = some '=' ∧ levels.flatten.contains sign.dropLast ∧
      !levels.flatten.contains sign then
    some sign.dropLast
  else none

mutual

/-- An assignment or a conditional expression. When `skipped`, nothing is
computed. -/
def expression (n : Nat) (skipped : Bool) : Computing Int := do
  match n with
  | 0 => fail "expecting EOF"
  | n + 1 =>
    let start ← get
    if let .name name := start.token then
      advance
      if let .sign sign := (← get).token then
        if let some op := assignment? sign then
          advance
          let v ← expression n skipped
          if skipped then return v
          let v ← if op.isEmpty then pure v else do apply op (← value name) v
          modify fun s => { s with assigned := (name, v) :: s.assigned }
          return v
      set start
    conditional n skipped

/-- A condition, and after a question mark two expressions to choose from. -/
def conditional (n : Nat) (skipped : Bool) : Computing Int := do
  match n with
  | 0 => fail "expecting EOF"
  | n + 1 =>
    let condition ← either n skipped
    if ← eat "?" then
      let yes ← expression n (skipped || condition == 0)
      if !(← eat ":") then fail "expecting ':'"
      let no ← conditional n (skipped || condition != 0)
      return if condition != 0 then yes else no
    else return condition

/-- Operands of `||`. -/
def either (n : Nat) (skipped : Bool) : Computing Int := do
  match n with
  | 0 => fail "expecting EOF"
  | n + 1 =>
    let a ← both n skipped
    if ← eat "||" then
      let b ← either n (skipped || a != 0)
      return truth (a != 0 || b != 0)
    else return a

/-- Operands of `&&`. -/
def both (n : Nat) (skipped : Bool) : Computing Int := do
  match n with
  | 0 => fail "expecting EOF"
  | n + 1 =>
    let a ← binary n skipped levels
    if ← eat "&&" then
      let b ← both n (skipped || a == 0)
      return truth (a != 0 && b != 0)
    else return a

/-- Operands joined by operators of the given levels. -/
def binary (n : Nat) (skipped : Bool) (ops : List (List Raw)) : Computing Int := do
  match n with
  | 0 => fail "expecting EOF"
  | n + 1 =>
    match ops with
    | [] => unary n skipped
    | level :: rest => binaryAfter n skipped level rest (← binary n skipped rest)

/-- The rest of operands joined by operators of one level. -/
def binaryAfter (n : Nat) (skipped : Bool) (level : List Raw) (tighter : List (List Raw))
    (first : Int) : Computing Int := do
  match n with
  | 0 => fail "expecting EOF"
  | n + 1 =>
    match (← get).token with
    | .sign op =>
      if level.contains op then
        advance
        let second ← binary n skipped tighter
        let v ← if skipped then pure second else apply op first second
        binaryAfter n skipped level tighter v
      else return first
    | _ => return first

/-- An operand. -/
def unary (n : Nat) (skipped : Bool) : Computing Int := do
  match n with
  | 0 => fail "expecting EOF"
  | n + 1 =>
    let token := (← get).token
    match token with
    | .number v =>
      advance
      return v
    | .name name =>
      advance
      if skipped then return 0 else value name
    | .sign ['('] =>
      advance
      let v ← expression n skipped
      if !(← eat ")") then fail "expecting ')'"
      return v
    | .sign ['+'] =>
      advance
      unary n skipped
    | .sign ['-'] =>
      advance
      return wrap (-(← unary n skipped))
    | .sign ['!'] =>
      advance
      return truth ((← unary n skipped) == 0)
    | .sign ['~'] =>
      advance
      return -(← unary n skipped) - 1
    | _ => fail "expecting primary"

end

/-- The value of an expression, and what it assigned, in order. -/
def compute (lookup : Raw → Option Raw) (t : Raw) : Except Fault Int × List (Raw × Int) :=
  let all : Computing Int := do
    advance
    let v ← expression (32 * t.length + 64) false
    if (← get).token ≠ .done then fail "expecting EOF"
    return v
  let (v, s) := (all.run lookup).run.run { rest := t }
  (v, s.assigned.reverse)

end WatInlay.Script.Arithmetic
