/-
The tokens of scripts: words, the words that are reserved for commands, and
signs.
-/

import WatInlay.Script.Language

namespace WatInlay.Script

/-- A word that has a meaning of its own where a command may begin. -/
inductive Keyword where
  | bang
  | case
  | do
  | done
  | elif
  | else
  | esac
  | fi
  | for
  | if
  | in
  | then
  | until
  | while
  | openBrace
  | closeBrace
  deriving DecidableEq, Repr

namespace Keyword

/-- All keywords, as they are written. -/
def all : List (Raw × Keyword) :=
  [("!", bang), ("case", .case), ("do", .do), ("done", .done), ("elif", .elif), ("else", .else),
    ("esac", .esac), ("fi", .fi), ("for", .for), ("if", .if), ("in", .in), ("then", .then),
    ("until", .until), ("while", .while), ("\x7b", openBrace), ("\x7d", closeBrace)].map
      fun (name, k) => (String.toList name, k)

/-- The keyword that a text is. -/
def ofText? (t : Raw) : Option Keyword :=
  all.lookup t

/-- The keyword as it is written. -/
def text (k : Keyword) : Raw :=
  ((all.find? fun p => p.2 == k).map (·.1)).getD []

/-- Whether the keyword ends a list of commands. -/
def endsList : Keyword → Bool
  | .do | .done | .elif | .else | .esac | .fi | .then | .closeBrace => true
  | _ => false

end Keyword

/-- A token of a script. -/
inductive Token where
  | endOfFile
  | newline
  /-- The operator of a redirection, with a descriptor before it. -/
  | redirection
  | word
  | semicolon
  | ampersand
  | bothSign
  | eitherSign
  | pipe
  | openParen
  | closeParen
  /-- `;;` -/
  | armEnd
  | keyword (k : Keyword)
  deriving DecidableEq, Repr

namespace Token

/-- What a token is called in messages. -/
def name : Token → Text
  | endOfFile => "end of file".toList
  | newline => "newline".toList
  | redirection => "redirection".toList
  | word => "word".toList
  | semicolon => "\";\"".toList
  | ampersand => "\"&\"".toList
  | bothSign => "\"&&\"".toList
  | eitherSign => "\"||\"".toList
  | pipe => "\"|\"".toList
  | openParen => "\"(\"".toList
  | closeParen => "\")\"".toList
  | armEnd => "\";;\"".toList
  | keyword k => '"' :: k.text ++ ['"']

/-- Whether a list of commands ends before the token. -/
def endsList : Token → Bool
  | endOfFile | closeParen | armEnd => true
  | keyword k => k.endsList
  | _ => false

end Token

end WatInlay.Script
