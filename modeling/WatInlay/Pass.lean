/-
One pass over a source: every block is compiled, and the literal statement
after each block that compiles is brought up to date.

The pass works on one buffer in place. After a block that fails it goes on
behind the block; after one that compiles it goes on behind the literal
statement, so that no block is seen twice. The text may grow on the way, but
what is left to read shrinks with every block (`Buffer.tail_sync_le`), and so
the pass ends.
-/

import WatInlay.Block
import WatInlay.Compiler
import WatInlay.Diagnostics
import WatInlay.Dialect
import WatInlay.Report

namespace WatInlay

/-- One question to a compiler and its answer. -/
structure Exchange where
  body : Text
  options : List Text
  answer : Except ToolError Outcome

/-- A source after a pass. -/
structure Processed where
  text : Text
  modified : Bool
  blocks : List BlockReport
  deriving DecidableEq, Repr

/-- What a pass leaves behind, with the compiler's state. -/
structure Pass (σ : Type) where
  /-- The processed source, or what ended the pass early. -/
  outcome : Except ToolError Processed
  /-- All questions to the compiler in order. -/
  exchanges : List Exchange
  /-- What was printed for people: the diagnostics of the failed blocks. -/
  printed : Text
  state : σ

namespace Pass

variable {σ : Type}

/-- A pass that finds no block in the buffer. -/
def done (buffer : Buffer) (state : σ) : Pass σ where
  outcome := .ok { text := buffer.text, modified := buffer.modified, blocks := [] }
  exchanges := []
  printed := []
  state

/-- A pass that an error ends. -/
def aborted (e : ToolError) (exchange : Exchange) (state : σ) : Pass σ where
  outcome := .error e
  exchanges := [exchange]
  printed := []
  state

/-- The pass that deals with one more block before `rest`. -/
def before (rest : Pass σ) (exchange : Exchange) (report : BlockReport) (printed : Text) :
    Pass σ where
  outcome := rest.outcome.map fun p => { p with blocks := report :: p.blocks }
  exchanges := exchange :: rest.exchanges
  printed := printed ++ rest.printed
  state := rest.state

/-- Diagnostics as they are printed: with one line break at the end. -/
def printedForm (diagnostics : Text) : Text :=
  Text.dropEndWhile (· == '\n') diagnostics ++ ['\n']

/-- The line of a block, counted from one. -/
def lineOf (source : Text) (b : Block) : Nat :=
  source.lineBreaksBefore b.start + 1

end Pass

/-- Deals with all blocks of the buffer that start at or after `pos`. -/
def processFrom {σ : Type} (path : Path) (d : Dialect) (compiler : Compiler σ) (buffer : Buffer)
    (pos : Nat) (state : σ) : Pass σ :=
  match _h : Block.find? buffer.text pos with
  | none => .done buffer state
  | some block =>
    let line := Pass.lineOf buffer.text block
    let (answer, state) := compiler.compile state block.body block.options
    let exchange := ⟨block.body, block.options, answer⟩
    match answer with
    | .error e => .aborted e exchange state
    | .ok (.failure complaints) =>
      let diagnostics :=
        Diagnostics.ofBody complaints buffer.text path compiler.unitName block.bodyStart
      (processFrom path d compiler buffer block.stop state).before exchange
        ⟨line, block.options, .failed diagnostics⟩ (Pass.printedForm diagnostics)
    | .ok (.success module) =>
      let synced := buffer.sync block.stop d.literal (Hex.encode module)
      (processFrom path d compiler synced.1 synced.2.resume state).before exchange
        ⟨line, block.options, Status.ofChange synced.2.change⟩ []
termination_by buffer.text.size - pos
decreasing_by
  · obtain ⟨h1, h2, h3⟩ := Block.find?_bounds _h
    have := h3.le_size
    omega
  · obtain ⟨h1, h2, h3⟩ := Block.find?_bounds _h
    have := h3.le_size
    have := Buffer.tail_sync_le buffer block.stop d.literal (Hex.encode module)
    omega

/-- Compiles every block of `source` and brings the literal statements after
them up to date. -/
def process {σ : Type} (path : Path) (d : Dialect) (compiler : Compiler σ) (source : Text)
    (state : σ) : Pass σ :=
  processFrom path d compiler ⟨source, false⟩ 0 state

end WatInlay
