/-
The texts that `printf` and `echo` make of their arguments.
-/

import WatInlay.Script.Floating

namespace WatInlay.Script.Format

/-! ### Escapes -/

/-- The character of an escape by letter. -/
def letterEscape? (c : Char) : Option Char :=
  match c with
  | 'a' => some '\x07'
  | 'b' => some '\x08'
  | 'e' => some '\x1b'
  | 'f' => some '\x0c'
  | 'n' => some '\n'
  | 'r' => some '\r'
  | 't' => some '\t'
  | 'v' => some '\x0b'
  | '\\' => some '\\'
  | _ => none

/-- An octal digit. -/
def isOctal (c : Char) : Bool :=
  '0' ≤ c && c ≤ '7'

/-- The character with a number of at most three octal digits. -/
def ofOctal (digits : Raw) : Char :=
  Char.ofNat (digits.foldl (fun n c => 8 * n + (c.toNat - '0'.toNat)) 0 % 256)

/-- The character of an escape in a format, after its backslash, and how many
characters it takes. An unknown escape is its backslash. -/
def formatEscape (t : Raw) : Char × Nat :=
  match t with
  | [] => ('\\', 0)
  | c :: _ =>
    if isOctal c then
      let digits := (t.take 3).takeWhile isOctal
      (ofOctal digits, digits.length)
    else
      match letterEscape? c with
      | some d => (d, 1)
      | none => ('\\', 0)

/-- A text with its escapes replaced, as `echo` and `%b` do, and whether it goes
on after it: `\c` ends all output. -/
def unescape (t : Raw) : Raw × Bool :=
  match t with
  | [] => ([], true)
  | '\\' :: 'c' :: _ => ([], false)
  | '\\' :: '0' :: rest =>
    let digits := (rest.take 3).takeWhile isOctal
    let (u, more) := unescape (rest.drop digits.length)
    (ofOctal digits :: u, more)
  | '\\' :: c :: rest =>
    match letterEscape? c with
    | some d =>
      let (u, more) := unescape rest
      (d :: u, more)
    | none =>
      if isOctal c then
        let digits := ((c :: rest).take 3).takeWhile isOctal
        let (u, more) := unescape ((c :: rest).drop digits.length)
        (ofOctal digits :: u, more)
      else
        let (u, more) := unescape (c :: rest)
        ('\\' :: u, more)
  | c :: rest =>
    let (u, more) := unescape rest
    (c :: u, more)
termination_by t.length
decreasing_by
  all_goals simp
  all_goals try omega

/-- What `echo` prints. -/
def echo (arguments : List Raw) : Raw :=
  let (newline, arguments) := match arguments with
    | ['-', 'n'] :: rest => (false, rest)
    | all => (true, all)
  let (t, more) := unescape (Text.joinWith [' '] arguments)
  if newline && more then t ++ ['\n'] else t

/-! ### Conversions -/

/-- A conversion of a format. -/
structure Conversion where
  flags : Raw
  width : Nat
  precision : Option Nat
  letter : Char
  deriving DecidableEq, Repr

/-- A text brought to the width of a conversion, after its sign or prefix, by
zeros if it may be. -/
def pad (c : Conversion) (zeros : Bool) (sign t : Raw) : Raw :=
  let missing := c.width - (sign ++ t).length
  if c.flags.contains '-' then sign ++ t ++ List.replicate missing ' '
  else if zeros && c.flags.contains '0' then sign ++ List.replicate missing '0' ++ t
  else List.replicate missing ' ' ++ sign ++ t

/-- The digits of a number in a base, at least as many as the precision asks. -/
def digits (c : Conversion) (base n : Nat) : Raw :=
  let ds := if n = 0 && c.precision == some 0 then [] else Nat.toDigits base n
  List.replicate (c.precision.getD 0 - ds.length) '0' ++ ds

/-- What stands before the digits of a number with a sign. -/
def signOf (c : Conversion) (negative : Bool) : Raw :=
  if negative then ['-']
  else if c.flags.contains '+' then ['+']
  else if c.flags.contains ' ' then [' '] else []

/-- What is wrong with an argument of which `rest` was not read as a number. -/
def conversionFault (t rest : Raw) (outOfRange : Bool) : Option Text :=
  if !rest.isEmpty then
    if rest = t then some (t ++ ": expected numeric value".toList)
    else some (t ++ ": not completely converted".toList)
  else if outOfRange then some (t ++ ": Numerical result out of range".toList)
  else none

/-- The whole number at the start of an argument, and the text after it. -/
def takeInteger (t : Raw) : Int × Raw :=
  let u := t.dropWhile Arithmetic.isSpace
  let (sign, u) : Int × Raw := match u with
    | '-' :: r => (-1, r)
    | '+' :: r => (1, r)
    | r => (1, r)
  if u.head?.any Char.isDigit then
    let (n, rest) := Arithmetic.takeNumber u
    (sign * n, rest)
  else (0, t)

/-- The whole number that an argument writes, within limits, and what is wrong
with it; after a quote stands a character with that number. -/
def integer (limit : Int) (t : Raw) : Int × Option Text :=
  match t with
  | '\'' :: rest | '"' :: rest => ((rest.headD '\x00').toNat, none)
  | t =>
    let (n, rest) := takeInteger t
    let outOfRange := n < Arithmetic.least || limit < n
    (max Arithmetic.least (min n limit), conversionFault t rest outOfRange)

/-- The floating-point number that an argument writes, and what is wrong with it;
after a quote stands a character with that number. -/
def floating (t : Raw) : Floating × Option Text :=
  match t with
  | '\'' :: rest | '"' :: rest => (.finite false (rest.headD '\x00').toNat 0, none)
  | t =>
    match Floating.take? t with
    | some (x, outOfRange, rest) => (x, conversionFault t rest outOfRange)
    | none => (.finite false 0 0, conversionFault t t false)

/-- What a conversion makes of an argument; whether output goes on, and what is
wrong with the argument. -/
def convert (c : Conversion) (argument : Option Raw) : Raw × Bool × Option Text :=
  let t := argument.getD []
  let cut (t : Raw) : Raw := match c.precision with
    | some p => t.take p
    | none => t
  let marked := c.flags.contains '#'
  match c.letter with
  | 's' => (pad c false [] (cut t), true, none)
  | 'c' => (pad c false [] [t.headD '\x00'], true, none)
  | 'b' =>
    let (u, more) := unescape t
    (pad c false [] (cut u), more, none)
  | letter =>
    let zeros := c.precision.isNone
    if letter == 'd' || letter == 'i' then
      let (n, fault) := integer Arithmetic.greatest t
      (pad c zeros (signOf c (n < 0)) (digits c 10 n.natAbs), true, fault)
    else if "ouxX".toList.contains letter then
      let (n, fault) := integer (Arithmetic.modulus - 1) t
      let n : Nat := (n % Arithmetic.modulus).toNat
      let base := if letter == 'u' then 10 else if letter == 'o' then 8 else 16
      let ds := digits c base n
      let ds := if letter == 'o' && marked && ds.head? != some '0' then '0' :: ds else ds
      let shown : Raw := if base = 16 && marked && n != 0 then ['0', 'x'] else []
      let upper (t : Raw) : Raw := if letter == 'X' then t.map Char.toUpper else t
      (pad c zeros (upper shown) (upper ds), true, fault)
    else
      let (x, fault) := floating t
      let body := x.text letter.toLower marked c.precision
      let shown : Raw := if body.take 2 = ['0', 'x'] then ['0', 'x'] else []
      let upper (t : Raw) : Raw := if letter.isUpper then t.map Char.toUpper else t
      (pad c x.isFinite (signOf c x.isNegative ++ upper shown) (upper (body.drop shown.length)), true,
        fault)

/-- The largest width and precision. -/
def largest : Nat :=
  2147483647

/-- A number as one of 32 bits with a sign. -/
def wrapped (n : Int) : Int :=
  let modulus : Nat := 4294967296
  let m : Nat := (n % (modulus : Int)).toNat
  if m ≤ largest then m else (m : Int) - modulus

/-- A width or a precision. -/
structure Measure where
  value : Option Int := none
  /-- What follows the digits and is none: stars, and digits after them. -/
  stray : Raw := []
  /-- The rest of the format. -/
  after : Raw
  /-- The arguments that are left. -/
  arguments : List Raw
  /-- What is wrong with the argument that gives the number. -/
  fault : Option Text := none

/-- Reads a width or a precision: digits, or a star for the next argument. -/
def measure (t : Raw) (arguments : List Raw) : Measure :=
  match t with
  | '*' :: t =>
    let (n, fault) := integer Arithmetic.greatest (arguments.headD [])
    { value := some (wrapped n), after := t, arguments := arguments.tail, fault }
  | t =>
    let run := t.takeWhile fun c => c.isDigit || c == '*'
    let ds := run.takeWhile Char.isDigit
    { value := if ds.isEmpty then none else some (Text.decimalValue ds : Nat)
      stray := run.drop ds.length
      after := t.drop run.length
      arguments }

/-- Whether a width or precision is one. -/
def Measure.fits (m : Measure) : Bool :=
  m.value.all (·.natAbs ≤ largest)

/-- What stands for a conversion with something stray in it: the flags and numbers before
that in a fixed order, and all else as it is in the format. -/
def Conversion.unconverted (c : Conversion) (rest : Raw) : Raw :=
  let has (flag : Char) : Bool := c.flags.contains flag
  let flags := [('#', has '#'), ('+', has '+'), (' ', has ' ' && !has '+'), ('-', has '-'),
    ('0', has '0' && !has '-')].filterMap fun (flag, shown) => if shown then some flag else none
  let width := if c.width = 0 then [] else Text.ofNat c.width
  let precision := match c.precision with
    | some p => '.' :: Text.ofNat p
    | none => []
  let letter := if c.letter == 'b' then ['s']
    else if "diouxX".toList.contains c.letter then ['l', c.letter]
    else [c.letter]
  '%' :: flags ++ width ++ precision ++ rest ++ letter

/-- What `printf` has made so far. -/
structure Result where
  /-- The pieces of the text, last ones first. -/
  pieces : List Raw := []
  /-- Whether output goes on after it. -/
  more : Bool := true
  /-- What is wrong with arguments. -/
  faults : List Text := []
  /-- What is wrong with the format. -/
  wrong : Option Text := none
  rest : List Raw
  /-- Whether any conversion took an argument. -/
  consumed : Bool := false

/-- The text that is printed. -/
def Result.text (r : Result) : Raw :=
  r.pieces.reverse.flatten

/-- The result with a text after it. -/
def Result.push (r : Result) (t : Raw) : Result :=
  { r with pieces := t :: r.pieces }

/-- The result after a conversion, which is not converted when there is something stray in
it. -/
def Result.finish (r : Result) (c : Conversion) (stray : Raw) (argument : Option Raw) : Result :=
  let shape := if stray.isEmpty then c else { c with width := 0, precision := none }
  let (u, more, fault) := convert shape argument
  { r.push (if stray.isEmpty then u else c.unconverted stray) with
    more
    faults := r.faults ++ fault.toList }

/-- The result after a conversion whose numbers are too large. -/
def Result.fail (r : Result) (c : Conversion) (argument : Option Raw) : Result :=
  let (_, _, fault) := convert { c with width := 0, precision := none } argument
  { r with
    more := false
    faults := r.faults ++ fault.toList
    wrong := some "xvsnprintf failed".toList }

/-- One use of a format. The bound is the length of the format. -/
def once (n : Nat) (t : Raw) (r : Result) : Result :=
  match n with
  | 0 => r
  | n + 1 =>
    if !r.more then r
    else
      match t with
      | [] => r
      | '\\' :: t =>
        let (c, taken) := formatEscape t
        once n (t.drop taken) (r.push [c])
      | '%' :: '%' :: t => once n t (r.push ['%'])
      | '%' :: t =>
        let flags := t.takeWhile (· ∈ "-+ 0#".toList)
        let width := measure (t.drop flags.length) r.rest
        let precision := match width.after with
          | '.' :: after => some (measure after width.arguments)
          | _ => none
        let last := precision.getD width
        let r :=
          { r with
            faults := r.faults ++ width.fault.toList ++ (precision.bind (·.fault)).toList
            rest := last.arguments }
        match last.after with
        | [] =>
          { r with more := false, wrong := some "missing format character".toList }
        | letter :: after =>
          if letter ∈ "diouxXcsbaAeEfFgG".toList then
            let isStray := !width.stray.isEmpty
            let c : Conversion :=
              { flags := if width.value.any (· < 0) then '-' :: flags else flags
                width := (width.value.getD 0).natAbs
                precision := if isStray then none else precision.bind fun p =>
                  let n := p.value.getD 0
                  if n < 0 then none else some n.toNat
                letter }
            let stray : Raw :=
              if isStray then
                width.stray ++ width.after.take (width.after.length - (after.length + 1))
              else (precision.map (·.stray)).getD []
            let fits := width.fits && (c.precision.isNone || precision.all (·.fits))
            let argument := r.rest.head?
            let r := { r with rest := r.rest.tail, consumed := true }
            once n after (if fits then r.finish c stray argument else r.fail c argument)
          else
            { r with
              more := false
              wrong := some ('%' :: t.take (t.length - after.length) ++
                ": invalid directive".toList) }
      | c :: t =>
        let run := c :: t.takeWhile fun d => d != '\\' && d != '%'
        once n (t.drop (run.length - 1)) (r.push run)

/-- What `printf` makes of a format and arguments: the format is used again as
long as arguments are left. The bound is the number of arguments. -/
def repeated (n : Nat) (format : Raw) (r : Result) : Result :=
  match n with
  | 0 => r
  | n + 1 =>
    let r := once (format.length + 1) format { r with consumed := false }
    if r.more && r.consumed && !r.rest.isEmpty then repeated n format r else r

/-- What `printf` prints, and what is wrong. -/
def printf (format : Raw) (arguments : List Raw) : Result :=
  repeated (arguments.length + 1) format { rest := arguments }

end WatInlay.Script.Format
