/-
The host languages: how each spells a literal statement, which files are
written in it, and which program lays them out.
-/

import WatInlay.Error
import WatInlay.Literal

namespace WatInlay

/-- A host language. -/
structure Dialect where
  name : Text
  /-- The extension of its source files, compared exactly. -/
  extension : Text
  literal : Literal.Grammar
  /-- The formatter and its arguments; the path of the source comes after
  them. -/
  formatter : List Text
  deriving DecidableEq, Repr

namespace Dialect

open Literal

/-- C++: `const auto wasm = from_hex("…");`. -/
def cpp : Dialect where
  name := "cpp".toList
  extension := "cpp".toList
  literal :=
    { lead :=
        [.blanks, .maybe "const ".toList, .word "auto ".toList, .identifier, .word " =".toList,
          .blanks, .maybe "fizzy::test::".toList, .word "from_hex(".toList, .blanks,
          .word "\"".toList]
      tail := "\");".toList
      opening := "const auto wasm = from_hex(\"".toList }
  formatter := ["clang-format".toList, "-i".toList]

/-- Rust: `let wasm = hex::decode("…").unwrap();`. -/
def rust : Dialect where
  name := "rust".toList
  extension := "rs".toList
  literal :=
    { lead :=
        [.blanks, .word "let ".toList, .identifier, .word " =".toList, .blanks,
          .word "hex::decode(".toList, .blanks, .word "\"".toList]
      tail := "\").unwrap();".toList
      opening := "let wasm = hex::decode(\"".toList }
  formatter := ["rustfmt".toList]

/-- Every dialect there is. -/
def all : List Dialect :=
  [cpp, rust]

/-- The dialect of the file at `path`, by its extension. -/
def ofPath (path : Path) : Except ToolError Dialect :=
  let extension := path.extension?.getD []
  match all.find? (·.extension = extension) with
  | some d => .ok d
  | none => .error (.unsupportedDialect extension)

end Dialect

end WatInlay
