/-
The conditions of `test` and `[`.

Three and four arguments are first looked at as wholes. In general a condition is
read from left to right with one argument ahead: a word that could be an
operator is one unless what follows makes an operand of it.
-/

import WatInlay.Script.Device
import WatInlay.Script.Numeral

namespace WatInlay.Script.Test

/-- Why a condition has no truth value. -/
inductive Fault where
  | illegalNumber (t : Raw)
  | unexpectedOperator (t : Raw)
  | argumentExpected (t : Raw)
  | missingParenthesis
  deriving DecidableEq, Repr

/-- The fault in words. -/
def Fault.message : Fault → Text
  | illegalNumber t => "Illegal number: ".toList ++ t
  | unexpectedOperator t => about t ++ "unexpected operator".toList
  | argumentExpected t => about t ++ "argument expected".toList
  | missingParenthesis => "closing paren expected".toList
where
  /-- What the message is about. -/
  about (t : Raw) : Text :=
    if t.isEmpty then [] else t ++ ": ".toList

/-! ### Operators -/

/-- What is asked about a file. -/
inductive FileTest where
  | present
  | regular
  | directory
  | executable
  | notEmpty
  | device
  | pipe
  | link
  /-- Whether it is of a kind, or has a mark, that nothing here has. -/
  | otherwise
  deriving DecidableEq, Repr

/-- A condition on one argument. -/
inductive Unary where
  | file (test : FileTest)
  | empty
  | notEmpty
  /-- Whether a descriptor leads to a terminal. -/
  | terminal
  deriving DecidableEq, Repr

/-- How two numbers or texts are compared. -/
inductive Comparison where
  | eq
  | ne
  | lt
  | le
  | gt
  | ge
  deriving DecidableEq, Repr

/-- A condition on two arguments. -/
inductive Binary where
  | texts (c : Comparison)
  | numbers (c : Comparison)
  /-- Whether two paths lead to one file. -/
  | sameFile
  /-- Whether one file was changed before or after another. -/
  | changes
  deriving DecidableEq, Repr

/-- A word with a meaning in conditions. -/
inductive Operator where
  | unary (op : Unary)
  | binary (op : Binary)
  | not
  | and
  | or
  | openParen
  | closeParen
  deriving DecidableEq, Repr

/-- All operators, as they are written. -/
def Operator.all : List (String × Operator) :=
  [("-e", unary (.file .present)), ("-r", unary (.file .present)), ("-w", unary (.file .present)),
    ("-O", unary (.file .present)), ("-G", unary (.file .present)),
    ("-f", unary (.file .regular)), ("-d", unary (.file .directory)),
    ("-x", unary (.file .executable)), ("-s", unary (.file .notEmpty)),
    ("-h", unary (.file .link)), ("-L", unary (.file .link)),
    ("-p", unary (.file .pipe)), ("-S", unary (.file .otherwise)),
    ("-b", unary (.file .otherwise)), ("-c", unary (.file .device)),
    ("-u", unary (.file .otherwise)), ("-g", unary (.file .otherwise)),
    ("-k", unary (.file .otherwise)), ("-t", unary .terminal), ("-z", unary .empty),
    ("-n", unary .notEmpty), ("=", binary (.texts .eq)), ("!=", binary (.texts .ne)),
    ("<", binary (.texts .lt)), (">", binary (.texts .gt)), ("-eq", binary (.numbers .eq)),
    ("-ne", binary (.numbers .ne)), ("-lt", binary (.numbers .lt)),
    ("-le", binary (.numbers .le)), ("-gt", binary (.numbers .gt)),
    ("-ge", binary (.numbers .ge)), ("-nt", binary .changes), ("-ot", binary .changes),
    ("-ef", binary .sameFile), ("!", not), ("-a", and), ("-o", or), ("(", openParen),
    (")", closeParen)]

/-- The operator that a word is. -/
def Operator.ofWord? (t : Raw) : Option Operator :=
  all.lookup (String.ofList t)

/-- Whether a word is a condition on two arguments. -/
def isBinary (t : Raw) : Bool :=
  Operator.ofWord? t matches some (.binary _)

/-! ### Truth of conditions on arguments -/

/-- Whether a comparison holds of what comes out when two values are compared. -/
def Comparison.holds (c : Comparison) (o : Ordering) : Bool :=
  match c with
  | eq => o == .eq
  | ne => o != .eq
  | lt => o == .lt
  | le => o != .gt
  | gt => o == .gt
  | ge => o != .lt

/-- The number that an argument writes. -/
def number (t : Raw) : Except Fault Int :=
  match Numeral.integer? t with
  | some n => .ok n
  | none => .error (.illegalNumber t)

/-- What can be seen at paths. -/
structure View where
  find : Path → Option Finding
  /-- Whether a link stands at a path. -/
  isLink : Path → Bool

/-- The answer to a question about what stands at a path. -/
def FileTest.holds (view : View) (test : FileTest) (path : Raw) : Bool :=
  let path := Raw.toText path
  if test == link then view.isLink path
  else
    match view.find path with
    | none => false
    | some found =>
      match test with
      | present => true
      | regular => found.kind == .file
      | directory => found.kind == .folder
      | device => found.kind == .device
      | pipe => found.kind == .pipe
      | executable => found.executable
      | notEmpty => found.hasSize
      | link | otherwise => false

/-- The truth of a condition on one argument. -/
def Unary.holds (view : View) (op : Unary) (t : Raw) : Except Fault Bool :=
  match op with
  | file test => .ok (test.holds view t)
  | empty => .ok t.isEmpty
  | notEmpty => .ok !t.isEmpty
  | terminal => (number t).map fun _ => false

/-- The truth of a condition on two arguments. -/
def Binary.holds (view : View) (op : Binary) (t u : Raw) : Except Fault Bool :=
  match op with
  | texts c => .ok (c.holds (compare t u))
  | numbers c => do
    return c.holds (compare (← number t) (← number u))
  | sameFile =>
    match view.find (Raw.toText t), view.find (Raw.toText u) with
    | some p, some q => .ok (p.identity == q.identity)
    | _, _ => .ok false
  | changes => .ok false

/-! ### Conditions -/

/-- What an argument is where it stands. -/
inductive Token where
  | nothing
  | operand
  | operator (op : Operator)
  deriving DecidableEq, Repr

/-- What the first of some arguments is. A condition on one argument is an operand
itself when no argument follows, or when the next one is a condition on two and
another one follows. -/
def Token.first : List Raw → Token
  | [] => .nothing
  | t :: rest =>
    match Operator.ofWord? t with
    | none => .operand
    | some op =>
      let isOperand := match op, rest with
        | .unary _, [] => true
        | .unary _, [_] => false
        | .unary _, u :: _ => isBinary u
        | .openParen, [] => true
        | _, _ => false
      if isOperand then .operand else .operator op

mutual

/-- The truth of conditions joined by `-o`, and the arguments from the last one on
that belongs to them. The first of the arguments is `token`. -/
def anyOf (view : View) (n : Nat) (token : Token) (args : List Raw) :
    Except Fault (Bool × List Raw) := do
  match n with
  | 0 => return (false, [])
  | n + 1 =>
    let (a, args) ← allOf view n token args
    if Token.first args.tail == .operator .or then
      let args := args.drop 2
      let (b, args) ← anyOf view n (.first args) args
      return (a || b, args)
    else return (a, args)

/-- The same for conditions joined by `-a`. -/
def allOf (view : View) (n : Nat) (token : Token) (args : List Raw) :
    Except Fault (Bool × List Raw) := do
  match n with
  | 0 => return (false, [])
  | n + 1 =>
    let (a, args) ← negated view n token args
    if Token.first args.tail == .operator .and then
      let args := args.drop 2
      let (b, args) ← allOf view n (.first args) args
      return (a && b, args)
    else return (a, args)

/-- The same for a condition that may be negated. -/
def negated (view : View) (n : Nat) (token : Token) (args : List Raw) :
    Except Fault (Bool × List Raw) := do
  match n with
  | 0 => return (false, [])
  | n + 1 =>
    if token != .operator .not then primary view n token args
    else
      let next := Token.first args.tail
      let (a, args) ← negated view n next (if next == .nothing then args else args.tail)
      return (!a, args)

/-- The same for a single condition. -/
def primary (view : View) (n : Nat) (token : Token) (args : List Raw) :
    Except Fault (Bool × List Raw) := do
  match n with
  | 0 => return (false, [])
  | n + 1 =>
    match token, args with
    | .nothing, args => return (false, args)
    | .operator .openParen, args =>
      let args := args.tail
      let next := Token.first args
      if next == .operator .closeParen then return (false, args)
      let (a, args) ← anyOf view n next args
      if Token.first args.tail == .operator .closeParen then return (a, args.tail)
      else throw .missingParenthesis
    | .operator (.unary op), _ :: t :: rest => return (← op.holds view t, t :: rest)
    | _, t :: op :: rest =>
      match Token.first (op :: rest) with
      | .operator (.binary f) =>
        match rest with
        | u :: _ => return (← f.holds view t u, rest)
        | [] => throw (.argumentExpected op)
      | _ => return (!t.isEmpty, args)
    | _, args => return (!(args.headD []).isEmpty, args)

end

/-- The truth of a condition. A fault names the last argument that still belonged
to it. -/
def holds (view : View) (args : List Raw) : Except Fault Bool :=
  go 3 true args
where
  /-- The truth of a condition or, unless `positive`, of its opposite. The bound is that
  of the exclamation marks before it. -/
  go (n : Nat) (positive : Bool) (args : List Raw) : Except Fault Bool := do
    let whole (token : Token) (args : List Raw) : Except Fault Bool := do
      let (a, rest) ← anyOf view (4 * args.length + 4) token args
      match rest with
      | t :: _ :: _ => throw (.unexpectedOperator t)
      | _ => return a == positive
    match n, args with
    | _, [] => return !positive
    | n + 1, t :: rest =>
      if args.length == 3 && isBinary (args[1]?.getD []) then whole .operand args
      else if args.length == 3 || args.length == 4 then
        if t == ['('] && args.getLast? == some [')'] then
          let inner := rest.dropLast
          whole (.first inner) inner
        else if t == ['!'] then go n false rest
        else whole (.first args) args
      else whole (.first args) args
    | 0, args => whole (.first args) args

end WatInlay.Script.Test
