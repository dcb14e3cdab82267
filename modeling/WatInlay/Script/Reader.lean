/-
Reading shell scripts.

A script is read one line of commands at a time, since the commands before a
fault are still executed. Every reading function takes a bound on the number of
nested steps; `Source.bound` is more than any script takes.
-/

import WatInlay.Script.Source

namespace WatInlay.Script

namespace Reading

/-! ### Characters of words -/

/-- A character that ends a word. -/
def isMeta (c : Char) : Bool :=
  c == ' ' || c == '\t' || c == '\n' || c == ';' || c == '&' || c == '|' || c == '<' ||
    c == '>' || c == '(' || c == ')'

/-- A character that changes the meaning of what follows in a word. -/
def isQuoting (c : Char) : Bool :=
  c == '\\' || c == '\'' || c == '"' || c == '$' || c == '\u0060'

/-- The parameters that one sign names. -/
def isSpecial (c : Char) : Bool :=
  "@*#?-$!".toList.contains c

/-- What a word is part of. -/
inductive Surroundings where
  | script
  /-- A text that a command reads, up to a line. -/
  | document (strip : Bool) (delimiter : Raw)
  /-- A text of its own. -/
  | whole
  deriving DecidableEq, Repr

/-- Where a word stands, which decides what ends it. -/
inductive Setting where
  /-- Between the words of a command. -/
  | plain
  /-- After `<<`, where nothing is replaced. -/
  | delimiter
  /-- Between double quotes, also after `<<`. -/
  | quotes (inDelimiter : Bool) (around : Surroundings)
  /-- In a text that is no script. -/
  | text (around : Surroundings)
  /-- Between the braces of a parameter. -/
  | braces (quoted : Bool) (around : Surroundings)
  /-- Between the parentheses of an arithmetic expansion, so many of them open. -/
  | arithmetic (depth : Nat) (around : Surroundings)
  deriving DecidableEq, Repr

namespace Setting

/-- What the word is part of. -/
def around : Setting → Surroundings
  | plain | delimiter => .script
  | quotes _ around | text around | braces _ around | arithmetic _ around => around

/-- Whether the pieces of a word in this setting are quoted. -/
def quoted : Setting → Bool
  | plain | delimiter => false
  | quotes _ _ | text _ | arithmetic _ _ => true
  | braces quoted _ => quoted

/-- Whether double quotes have a meaning in this setting. -/
def takesQuotes : Setting → Bool
  | plain | delimiter | braces _ _ => true
  | quotes _ _ | text _ | arithmetic _ _ => false

/-- Whether a dollar sign and a backquote have a meaning in this setting. -/
def replaces : Setting → Bool
  | delimiter | quotes true _ => false
  | _ => true

/-- Whether the setting is that of a word that ends where a word may end. -/
def isBare : Setting → Bool
  | plain | delimiter => true
  | _ => false

/-- What a backslash keeps from having its meaning, where it is quoted. -/
def escapes (setting : Setting) (c : Char) : Bool :=
  c == '$' || c == '\u0060' || c == '\\' || (c == '"' && !(setting matches text _)) ||
    (setting matches braces _ _ && c == '\x7d')

/-- The fault that the text ends in this setting, if it is one. -/
def endFault? : Setting → Option Text
  | plain | delimiter | text _ => none
  | quotes _ .script | braces true .script =>
    some "Syntax error: Unterminated quoted string".toList
  | quotes _ _ | braces _ _ => some "Syntax error: Missing '\x7d'".toList
  | arithmetic _ _ => some "Syntax error: Missing '))'".toList

end Setting

/-- Commands between backquotes, and how many characters they take with the
closing one; `none` when there is none. A backslash keeps itself, a dollar sign
and a backquote, and between double quotes also those, from its meaning. -/
def backquoted (inQuotes : Bool) : Raw → Option (Raw × Nat)
  | [] => none
  | '\u0060' :: _ => some ([], 1)
  | '\\' :: c :: t =>
    (backquoted inQuotes t).map fun (taken, n) =>
      if c == '\n' then (taken, n + 2)
      else if c == '\\' || c == '\u0060' || c == '$' || (inQuotes && c == '"') then
        (c :: taken, n + 2)
      else ('\\' :: c :: taken, n + 2)
  | c :: t => (backquoted inQuotes t).map fun (taken, n) => (c :: taken, n + 1)

/-! ### Tokens -/

/-- What may stand in the place of a token. -/
structure Expected where
  /-- Whether line breaks are passed over. -/
  newlines : Bool := false
  /-- Whether keywords have their meaning. -/
  keywords : Bool := false
  /-- Whether aliases are replaced. -/
  aliases : Bool := false

/-- Where a command may begin, on the same line or on a later one. -/
def Expected.command (newlines : Bool) : Expected where
  newlines
  keywords := true
  aliases := true

/-- Sets the current token. -/
def settle (token : Token) : Reading Token := do
  modify fun s => { s with token }
  return token

/-- Lets the current token be read again. -/
def unread : Reading Unit :=
  modify fun s => { s with again := true }

/-- The operator of a redirection, after its first sign. -/
def readOperator (descriptor : Option Nat) : Reading Token := do
  let isOutput := (← ahead).head? == some '>'
  drop 1
  let sign := (← ahead).head?
  let (direction, taken) : Operator × Nat :=
    if isOutput then
      match sign with
      | some '>' => (.file .append, 1)
      | some '|' => (.file .overwrite, 1)
      | some '&' => (.file .duplicate, 1)
      | _ => (.file .output, 0)
    else
      match sign with
      | some '<' => (.document false, 1)
      | some '&' => (.file .duplicate, 1)
      | some '>' => (.file .both, 1)
      | _ => (.file .input, 0)
  drop taken
  let direction ←
    if direction matches .document _ then do pure (Operator.document (← eat '-'))
    else pure direction
  modify fun s =>
    { s with operator := (descriptor.getD (if isOutput then 1 else 0), direction) }
  settle .redirection

/-- How much a list of commands must hold. -/
inductive Demand where
  /-- The commands up to the end of a line. -/
  | line
  /-- At least one command. -/
  | some
  /-- Any number of commands. -/
  | any
  deriving DecidableEq, Repr

/-- The command in the background. -/
def inBackground (line : Nat) : Command → Command
  | .redirected line c redirects => .background line c redirects
  | c => .background line c []

/-- Whether a text in double quotes is all arguments and nothing else. Only then does it
make no field when there are none. -/
def isAllArguments (w : Word) : Bool :=
  w matches [.parameter _ ['@'] .plain]

/-! ### Words and commands -/

mutual

/-- The pieces of a word up to the end of its setting. At the start of a line in a
document the line may be the one that ends it. -/
def readParts (n : Nat) (setting : Setting) (lineStart : Bool) : Reading Word := do
  match n with
  | 0 => return []
  | n + 1 =>
    let ended ← match lineStart, setting.around with
      | true, .document strip delimiter => eatDelimiter strip delimiter
      | _, _ => pure false
    let q := setting.quoted
    let left ← if ended then pure [] else ahead
    match left with
    | [] =>
      match setting.endFault? with
      | some fault => fail fault
      | none => return []
    | c :: t =>
      if setting.isBare && isMeta c then return []
      else if c == '"' && setting matches .quotes _ _ then return []
      else if c == '\x7d' && setting matches .braces _ _ then return []
      else if c == '\\' then
        match t with
        | [] =>
          drop 1
          return Word.cons true ['\\'] (← readParts n setting false)
        | d :: _ =>
          drop 2
          let kept := if q && !setting.escapes d then ['\\', d] else [d]
          return Word.cons true kept (← readParts n setting false)
      else if c == '\'' && setting.takesQuotes && !q then
        let inside := t.takeWhile (· ≠ '\'')
        drop (inside.length + 1)
        if (← get).rest.isEmpty then fail "Syntax error: Unterminated quoted string".toList
        drop 1
        return Word.cons true inside (← readParts n setting false)
      else if c == '"' && setting.takesQuotes then
        drop 1
        let inside ← readParts n (.quotes (setting == .delimiter) setting.around) false
        drop 1
        let inside := if isAllArguments inside then inside else Word.cons true [] inside
        return inside ++ (← readParts n setting false)
      else if c == '$' && setting.replaces then
        drop 1
        let parts ← readDollar n setting
        return parts ++ (← readParts n setting false)
      else if c == '\u0060' && setting.replaces then
        drop 1
        let part ← readBackquoted n q
        return part :: (← readParts n setting false)
      else if c == '\n' then
        drop 1
        return Word.cons q [c] (← readParts n setting true)
      else
        match setting with
        | .arithmetic depth around =>
          drop 1
          if c == '(' then
            return Word.cons q [c] (← readParts n (.arithmetic (depth + 1) around) false)
          else if c == ')' then
            match depth with
            | depth + 1 => return Word.cons q [c] (← readParts n (.arithmetic depth around) false)
            | 0 =>
              if ← eat ')' then return []
              return Word.cons q [c] (← readParts n setting false)
          else
            return Word.cons q [c] (← readParts n setting false)
        | _ =>
          let run := c :: t.takeWhile fun d => !isMeta d && !isQuoting d && d != '\x7d'
          drop run.length
          return Word.cons q run (← readParts n setting false)

/-- What a dollar sign introduces. -/
def readDollar (n : Nat) (setting : Setting) : Reading Word := do
  match n with
  | 0 => return []
  | n + 1 =>
    let q := setting.quoted
    match ← ahead with
    | '(' :: _ =>
      drop 1
      if ← eat '(' then 
        return [.arithmetic q (← readParts n (.arithmetic 0 setting.around) false)]
      let outer := (← get).pending
      modify fun s => { s with pending := [] }
      let commands ← readList n .any
      let t ← readToken n {}
      if t != .closeParen then unexpected (some .closeParen)
      modify fun s => { s with pending := outer }
      return [.output q (.ofList commands)]
    | '\x7b' :: _ =>
      drop 1
      readBraced n q setting.around
    | c :: _ =>
      if c.isDigit || isSpecial c then
        drop 1
        return [.parameter q [c] .plain]
      else
        let name ← takeWhile isNameChar
        return if name.isEmpty then [.text q ['$']] else [.parameter q name .plain]
    | [] => return [.text q ['$']]

/-- Commands between backquotes, after the first one. They are a script of their
own, which may end early. -/
def readBackquoted (n : Nat) (q : Bool) : Reading Part := do
  match n with
  | 0 => return .text q []
  | n + 1 =>
    let outer ← get
    match backquoted q outer.rest with
    | none =>
      drop outer.rest.length
      fail "Syntax error: EOF in backquote substitution".toList
    | some (source, length) =>
      let inner : Source :=
        { rest := source, aliases := outer.aliases, documents := outer.documents }
      set inner
      let commands ← readList n .any
      let documents := (← get).documents
      set { outer with documents }
      drop length
      return .output q (.ofList commands)

/-- What stands between the braces of a parameter. -/
def readBraced (n : Nat) (q : Bool) (around : Surroundings) : Reading Word := do
  match n with
  | 0 => return []
  | n + 1 =>
    match ← ahead with
    | [] => readBad n q around
    | c :: _ =>
      if isNameChar c then readOperation n q around (← readName c)
      else if c == '#' then
        drop 1
        match ← ahead with
        | [] => readBad n q around
        | d :: _ =>
          if isNameChar d then
            let name ← readName d
            if (← ahead).head? == some '\x7d' then
              drop 1
              return [.parameter q name .length]
            else readBad n q around
          else
            let (_, taken) := joinedWhile (· == d) ((← get).rest.take 1)
            let after := (← get).rest.drop taken
            let after := after.drop (joints after)
            if d == '\x7d' || after.head? != some '\x7d' then readOperation n q around ['#']
            else if isSpecial d then
              drop 1
              let _ ← eat '\x7d'
              return [.parameter q [d] .length]
            else
              dropUncounted
              readBad n q around
      else if c == '\x7d' then readBad n q around
      else
        dropUncounted
        if isSpecial c then readOperation n q around [c] else readBad n q around
where
  /-- A name or number that begins with a character. -/
  readName (c : Char) : Reading Raw :=
    takeWhile (if c.isDigit then Char.isDigit else isNameChar)

/-- What is done with a parameter, after its name and up to the closing brace. A line
break in the place of an operation is not counted as a line. -/
def readOperation (n : Nat) (q : Bool) (around : Surroundings) (name : Raw) : Reading Word := do
  match n with
  | 0 => return []
  | n + 1 =>
    let colon ← eat ':'
    match ← ahead with
    | [] => readBad n q around
    | c :: _ =>
      dropUncounted
      let word (quoted : Bool) : Reading Word := do
        let w ← readParts n (.braces quoted around) false
        drop 1
        return w
      if c == '-' then return [.parameter q name (.orElse colon (← word q))]
      else if c == '=' then return [.parameter q name (.orAssign colon (← word q))]
      else if c == '?' then return [.parameter q name (.orFail colon (← word q))]
      else if c == '+' then return [.parameter q name (.ifSet colon (← word q))]
      else if c == '\x7d' then
        let rest ← if colon then word q else pure []
        return .parameter q name .plain :: rest
      else if colon then readBad n q around
      else if c == '#' then
        let longest ← eat '#'
        return [.parameter q name (.dropStart longest (← word false))]
      else if c == '%' then
        let longest ← eat '%'
        return [.parameter q name (.dropEnd longest (← word false))]
      else readBad n q around

/-- Moves behind the closing brace of a parameter that makes no sense. -/
def readBad (n : Nat) (q : Bool) (around : Surroundings) : Reading Word := do
  match n with
  | 0 => return []
  | n + 1 =>
    let _ ← readParts n (.braces q around) false
    drop 1
    return [.parameter q [] .bad]

/-- The next token. -/
def readToken (n : Nat) (expected : Expected) : Reading Token := do
  match n with
  | 0 => return .endOfFile
  | n + 1 =>
    modify fun s => { s with aliasNext := false }
    let t ← rawToken n
    if expected.newlines && t == .newline then
      readDocuments n
      readToken n expected
    else
      match t with
      | .word =>
        let s ← get
        match s.word.bare? with
        | none => return t
        | some name =>
          match if expected.keywords then Keyword.ofText? name else none with
          | some k => settle (.keyword k)
          | none =>
            let expected := { expected with aliases := expected.aliases || s.aliasNext }
            if expected.aliases then
              if ← replaceAlias name then readToken n expected else return t
            else return t
      | t => return t

/-- The next token, where neither keywords nor aliases have a meaning. -/
def rawToken (n : Nat) : Reading Token := do
  match n with
  | 0 => return .endOfFile
  | n + 1 =>
    if (← get).again then
      modify fun s => { s with again := false }
      return (← get).token
    skipSpace n
    match ← ahead with
    | [] => settle .endOfFile
    | c :: _ =>
      if c == '\n' then
        drop 1
        settle .newline
      else if c == '&' then
        drop 1
        if ← eat '&' then settle .bothSign else settle .ampersand
      else if c == '|' then
        drop 1
        if ← eat '|' then settle .eitherSign else settle .pipe
      else if c == ';' then
        drop 1
        if ← eat ';' then settle .armEnd else settle .semicolon
      else if c == '(' then
        drop 1
        settle .openParen
      else if c == ')' then
        drop 1
        settle .closeParen
      else readWord n .plain

/-- A word, or the operator of a redirection with a digit before it. -/
def readWord (n : Nat) (setting : Setting) : Reading Token := do
  match n with
  | 0 => return .endOfFile
  | n + 1 =>
    let word ← readParts n setting false
    let redirects := match (← ahead).head? with
      | some c => c == '<' || c == '>'
      | none => false
    match redirects, word with
    | true, [] => readOperator none
    | true, [.text false [d]] =>
      if d.isDigit then readOperator (some (d.toNat - '0'.toNat))
      else
        modify fun s => { s with word }
        settle .word
    | _, _ =>
      modify fun s => { s with word }
      settle .word

/-- Reads the documents that were announced. -/
def readDocuments (n : Nat) : Reading Unit := do
  match n with
  | 0 => return
  | n + 1 =>
    match (← get).pending with
    | [] => return
    | d :: pending =>
      modify fun s => { s with pending }
      let text ←
        if d.verbatim then do
          let length := (← get).rest.length
          pure [.text true (← verbatimLines (length + 1) d.strip d.delimiter)]
        else readParts n (.text (.document d.strip d.delimiter)) true
      setDocument d.key text
      readDocuments n

/-- Commands up to one of the tokens that end a list, which is to be read again. -/
def readList (n : Nat) (demand : Demand) : Reading (List Command) := do
  match n with
  | 0 => return []
  | n + 1 =>
    let t ← readToken n (.command (demand != .line))
    match t with
    | .newline =>
      readDocuments n
      return []
    | .endOfFile =>
      readDocuments n
      let _ ← settle .endOfFile
      unread
      return []
    | t =>
      unread
      if demand == .any && t.endsList then return []
      let c ← readAndOr n
      let t ← readToken n {}
      let line := (← get).line
      let c := if t == .ampersand then inBackground line c else c
      if t == .newline || t == .endOfFile then unread
      else if t != .ampersand && t != .semicolon then
        if demand == .line then unexpected none
        unread
        return [c]
      return c :: (← readList n (if demand == .line then .line else .any))

/-- Pipelines joined by `&&` and `||`. -/
def readAndOr (n : Nat) : Reading Command := do
  match n with
  | 0 => return .nothing
  | n + 1 => readAndOrAfter n (← readPipeline n)

/-- The rest of a list of pipelines joined by `&&` and `||`. -/
def readAndOrAfter (n : Nat) (first : Command) : Reading Command := do
  match n with
  | 0 => return first
  | n + 1 =>
    let t ← readToken n {}
    if t == .bothSign then
      let _ ← readToken n (.command true)
      unread
      readAndOrAfter n (.andThen first (← readPipeline n))
    else if t == .eitherSign then
      let _ ← readToken n (.command true)
      unread
      readAndOrAfter n (.orElse first (← readPipeline n))
    else
      unread
      return first

/-- Commands joined by `|`, possibly negated. -/
def readPipeline (n : Nat) : Reading Command := do
  match n with
  | 0 => return .nothing
  | n + 1 =>
    let t ← readToken n {}
    let negated := t == .keyword .bang
    if negated then
      let _ ← readToken n (.command false)
    unread
    let cs ← readPiped n
    let c := match cs with
      | [c] => c
      | cs => .pipe cs
    return if negated then .not c else c

/-- Commands with `|` between them. -/
def readPiped (n : Nat) : Reading (List Command) := do
  match n with
  | 0 => return []
  | n + 1 =>
    let c ← readCommand n
    let t ← readToken n {}
    if t == .pipe then
      let _ ← readToken n (.command true)
      unread
      return c :: (← readPiped n)
    else
      unread
      return [c]

/-- One command with its redirections. -/
def readCommand (n : Nat) : Reading Command := do
  match n with
  | 0 => return .nothing
  | n + 1 =>
    let line := (← get).line
    let t ← readToken n {}
    match t with
    | .word | .redirection =>
      unread
      readSimple n (← get).line [] [] []
    | .openParen =>
      let c ← readList n .some
      expect n .closeParen
      return .subshell line (.ofList c) (← readRedirects n (.command false))
    | .keyword k =>
      let c ← match k with
        | .openBrace => do
          let c ← readList n .some
          expect n (.keyword .closeBrace)
          pure (Command.ofList c)
        | .if => readIf n
        | .while => readLoop n false
        | .until => readLoop n true
        | .for => readFor n line
        | .case => readCase n line
        | _ => unexpected none
      let redirects ← readRedirects n (.command false)
      return if redirects.isEmpty then c else .redirected line c redirects
    | _ => unexpected none

/-- Moves over a token that must be next. -/
def expect (n : Nat) (t : Token) : Reading Unit := do
  match n with
  | 0 => return
  | n + 1 =>
    if (← readToken n {}) != t then unexpected (some t)

/-- `if` after its first word. -/
def readIf (n : Nat) : Reading Command := do
  match n with
  | 0 => return .nothing
  | n + 1 =>
    let condition ← readList n .some
    expect n (.keyword .then)
    let yes ← readList n .some
    let t ← readToken n {}
    if t == .keyword .elif then
      return .ifElse (.ofList condition) (.ofList yes) (← readIf n)
    else
      let no ←
        if t == .keyword .else then readList n .some
        else do
          unread
          pure []
      expect n (.keyword .fi)
      return .ifElse (.ofList condition) (.ofList yes) (.ofList no)

/-- `while` or `until` after its first word. -/
def readLoop (n : Nat) (negated : Bool) : Reading Command := do
  match n with
  | 0 => return .nothing
  | n + 1 =>
    let condition ← readList n .some
    expect n (.keyword .do)
    let body ← readList n .some
    expect n (.keyword .done)
    return .loop negated (.ofList condition) (.ofList body)

/-- `for` after its first word. Without words it goes over the arguments. -/
def readFor (n line : Nat) : Reading Command := do
  match n with
  | 0 => return .nothing
  | n + 1 =>
    let t ← readToken n {}
    let word := (← get).word
    let name := if t == .word then word.bare?.getD [] else []
    if !isName name then fail "Syntax error: Bad for loop variable".toList
    let t ← readToken n (.command true)
    let words ←
      if t == .keyword .in then do
        let words ← readWords n
        let t := (← get).token
        if t != .newline && t != .semicolon then unexpected none
        pure words
      else do
        if t != .semicolon then unread
        pure [[Part.parameter true ['@'] .plain]]
    let t ← readToken n (.command true)
    if t != .keyword .do then unexpected (some (.keyword .do))
    let body ← readList n .some
    expect n (.keyword .done)
    return .each line name words (.ofList body)

/-- Words up to a token that is none. -/
def readWords (n : Nat) : Reading (List Word) := do
  match n with
  | 0 => return []
  | n + 1 =>
    if (← readToken n {}) == .word then
      let w := (← get).word
      return w :: (← readWords n)
    else return []

/-- `case` after its first word. -/
def readCase (n line : Nat) : Reading Command := do
  match n with
  | 0 => return .nothing
  | n + 1 =>
    if (← readToken n {}) != .word then unexpected (some .word)
    let word := (← get).word
    let t ← readToken n (.command true)
    if t != .keyword .in then unexpected (some (.keyword .in))
    let t ← readToken n { newlines := true, keywords := true }
    return .caseOf line word (← readArms n t)

/-- The arms of a `case` from a token on, and its last word. -/
def readArms (n : Nat) (t : Token) : Reading (List (List Word × Command)) := do
  match n with
  | 0 => return []
  | n + 1 =>
    if t == .keyword .esac then return []
    if t == .openParen then
      let _ ← readToken n {}
    let patterns ← readPatterns n
    let body := Command.ofList (← readList n .any)
    let t ← readToken n { newlines := true, keywords := true }
    if t == .keyword .esac then return [(patterns, body)]
    if t != .armEnd then unexpected (some .armEnd)
    let t ← readToken n { newlines := true, keywords := true }
    return (patterns, body) :: (← readArms n t)

/-- The patterns of an arm, the first of which has been read, and the parenthesis
after them. -/
def readPatterns (n : Nat) : Reading (List Word) := do
  match n with
  | 0 => return []
  | n + 1 =>
    let w := (← get).word
    match ← readToken n {} with
    | .pipe =>
      let _ ← readToken n {}
      return w :: (← readPatterns n)
    | .closeParen => return [w]
    | _ => unexpected (some .closeParen)

/-- All redirections ahead. -/
def readRedirects (n : Nat) (expected : Expected) : Reading (List Redirect) := do
  match n with
  | 0 => return []
  | n + 1 =>
    if (← readToken n expected) == .redirection then
      let r ← readTarget n
      return r :: (← readRedirects n {})
    else
      unread
      return []

/-- The target of a redirection, after its operator. -/
def readTarget (n : Nat) : Reading Redirect := do
  match n with
  | 0 => return .document 0 0
  | n + 1 =>
    let (descriptor, operator) := (← get).operator
    match operator with
    | .file direction =>
      if (← readToken n {}) != .word then unexpected none
      return .file descriptor direction (← get).word
    | .document strip =>
      skipSpace n
      let t ← match ← ahead with
        | c :: _ => if isMeta c then rawToken n else readWord n .delimiter
        | [] => rawToken n
      if t != .word then unexpected none
      let word := (← get).word
      return .document descriptor (← announce strip word.isQuoted word.literal)

/-- A simple command, of which some parts have been read, last ones first. -/
def readSimple (n line : Nat) (assignments : List (Raw × Word)) (words : List Word)
    (redirects : List Redirect) : Reading Command := do
  match n with
  | 0 => return .nothing
  | n + 1 =>
    let t ← readToken n { aliases := words.isEmpty }
    match t with
    | .word =>
      let w := (← get).word
      match if words.isEmpty then w.assignment? else none with
      | some a => readSimple n line (a :: assignments) words redirects
      | none => readSimple n line assignments (w :: words) redirects
    | .redirection =>
      let r ← readTarget n
      readSimple n line assignments words (r :: redirects)
    | .openParen =>
      match assignments, words, redirects with
      | [], [w], [] =>
        expect n .closeParen
        let name := w.bare?.getD []
        if !isName name || specialNames.contains name then
          fail "Syntax error: Bad function name".toList
        let _ ← readToken n (.command true)
        unread
        return .function name (← readCommand n)
      | _, _, _ => finish
    | _ => finish
where
  /-- The command, when it has ended. -/
  finish : Reading Command := do
    unread
    return .simple line assignments.reverse words.reverse redirects.reverse
  /-- The names that no function can have. -/
  specialNames : List Raw :=
    [":", ".", "break", "continue", "eval", "exec", "exit", "export", "local", "readonly",
      "return", "set", "shift", "times", "trap", "unset"].map String.toList

end

end Reading

namespace Source

/-- More steps than reading any script takes. -/
def bound : Nat :=
  1000000000

/-- The commands of the next line, and what is left after it; no commands at the
end of the script. -/
def next? (s : Source) : Except SyntaxFault (Option Command × Source) := do
  let (commands, s) ← (Reading.readList bound .line).run { s with again := false }
  let ended := s.again && s.token == .endOfFile && commands.isEmpty
  return (if ended then none else some (.ofList commands), s)

end Source

end WatInlay.Script
