/-
Compilers, as seen by the block loop.

A compiler may keep a state between its calls. It answers each block with a
module or with its complaints, or it cannot be run at all, which ends the run.
-/

import WatInlay.Error

namespace WatInlay

/-- A compiler's answer to a block. -/
inductive Outcome where
  | success (module : Bytes)
  /-- What the compiler complained about, in the coordinates of its unit. -/
  | failure (diagnostics : Text)
  deriving DecidableEq, Repr

/-- A compiler with states of type `σ`. -/
structure Compiler (σ : Type) where
  /-- What the compiler calls its input in its messages. -/
  unitName : Text
  /-- Compiles a body with options. An error means that the compiler could not
  be run. -/
  compile : σ → Text → List Text → Except ToolError Outcome × σ

namespace Compiler

/-- A compiler that gives the listed answers in turn, whatever it is asked, and
cannot be run when there are none left. -/
def scripted (unitName : Text) : Compiler (List (Except ToolError Outcome)) where
  unitName
  compile answers _ _ :=
    match answers with
    | [] => (.error (.compilerLaunch "scripted".toList "no more outcomes".toList), [])
    | a :: rest => (a, rest)

/-- A compiler whose answer depends only on the body. -/
def ofFunction (unitName : Text) (f : Text → Outcome) : Compiler Unit where
  unitName
  compile _ body _ := (.ok (f body), ())

end Compiler

end WatInlay
