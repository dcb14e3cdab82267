/-
The pass as a rewriter of what is left.

`rewriteFrom` reads a text from its head and knows of what stands before it
only the number of line breaks. It has no buffer and no offsets: it copies the
text up to the end of the first block, compiles the block, amends the text
behind it, and goes on with the rest. The pass over a buffer is this rewriter
put behind what has already been written (`processFrom_append`).
-/

import WatInlay.Pass
import WatInlay.Proofs.Amend
import WatInlay.Proofs.Block

namespace WatInlay

/-! ### Passes behind a text -/

namespace Pass

variable {σ : Type}

/-- The pass over a longer source that begins with `text`; `changed` says
whether something else stood there. -/
def behind (rest : Pass σ) (text : Text) (changed : Bool) : Pass σ :=
  { rest with
    outcome := rest.outcome.map fun p =>
      { p with text := text ++ p.text, modified := changed || p.modified } }

theorem behind_behind (rest : Pass σ) (text text' : Text) (changed changed' : Bool) :
    (rest.behind text' changed').behind text changed =
      rest.behind (text ++ text') (changed || changed') := by
  simp only [behind, Pass.mk.injEq, and_self, and_true]
  cases rest.outcome with
  | error e => rfl
  | ok p => simp [Except.map, Bool.or_assoc]

theorem behind_before (rest : Pass σ) (exchange : Exchange) (report : BlockReport)
    (printed text : Text) (changed : Bool) :
    (rest.before exchange report printed).behind text changed =
      (rest.behind text changed).before exchange report printed := by
  simp only [behind, before, Pass.mk.injEq, and_self, and_true]
  cases rest.outcome <;> rfl

theorem behind_nil (rest : Pass σ) : rest.behind [] false = rest := by
  cases rest with
  | mk outcome exchanges printed state =>
    cases outcome <;> simp [behind, Except.map]

end Pass

/-! ### The rewriter -/

section Rewriter

variable {σ : Type} (path : Path) (d : Dialect) (compiler : Compiler σ)

/-- Rewrites a text that stands behind `lines` line breaks. -/
def rewriteFrom (lines : Nat) (t : Text) (state : σ) : Pass σ :=
  match _h : Block.cut? t with
  | none => .done ⟨t, false⟩ state
  | some k =>
    let line := lines + k.gap.lineBreaks + 1
    let (answer, state) := compiler.compile state k.body k.options
    let exchange := ⟨k.body, k.options, answer⟩
    match answer with
    | .error e => .aborted e exchange state
    | .ok (.failure complaints) =>
      let diagnostics :=
        Diagnostics.remap complaints (lines + k.upToBody.lineBreaks) path compiler.unitName
      ((rewriteFrom (lines + k.upTo.lineBreaks) k.rest state).behind k.upTo false).before exchange
        ⟨line, k.options, .failed diagnostics⟩ (Pass.printedForm diagnostics)
    | .ok (.success module) =>
      let amended := d.literal.amend (Hex.encode module) k.rest
      let written := k.upTo ++ amended.statement
      ((rewriteFrom (lines + written.lineBreaks) amended.rest state).behind written
        (amended.change != .unchanged)).before exchange
        ⟨line, k.options, Status.ofChange amended.change⟩ []
termination_by t.length
decreasing_by
  · have := (Block.cuts_of_cut?_eq_some _h).length_rest_lt
    omega
  · have := (Block.cuts_of_cut?_eq_some _h).length_rest_lt
    obtain ⟨old, hold⟩ := d.literal.exists_eq_append_amend (Hex.encode module) k.rest
    have := congrArg List.length hold
    simp at this
    omega

/-! ### The buffer and the rewriter -/

variable {path d compiler}

section Loop

variable {buffer : Buffer} {pos : Nat} {state state' : σ} {b : Block}

theorem processFrom_of_none (h : Block.find? buffer.text pos = none) :
    processFrom path d compiler buffer pos state = .done buffer state := by
  rw [processFrom]
  split
  · rfl
  · simp_all

theorem processFrom_of_error (h : Block.find? buffer.text pos = some b) {e : ToolError}
    (hc : compiler.compile state b.body b.options = (.error e, state')) :
    processFrom path d compiler buffer pos state =
      .aborted e ⟨b.body, b.options, .error e⟩ state' := by
  rw [processFrom]
  split
  · simp_all
  · rename_i b' hb'
    rw [h] at hb'
    cases hb'
    simp only [hc]

theorem processFrom_of_failure (h : Block.find? buffer.text pos = some b) {complaints : Text}
    (hc : compiler.compile state b.body b.options = (.ok (.failure complaints), state')) :
    processFrom path d compiler buffer pos state =
      let diagnostics :=
        Diagnostics.ofBody complaints buffer.text path compiler.unitName b.bodyStart
      (processFrom path d compiler buffer b.stop state').before
        ⟨b.body, b.options, .ok (.failure complaints)⟩
        ⟨Pass.lineOf buffer.text b, b.options, .failed diagnostics⟩
        (Pass.printedForm diagnostics) := by
  rw [processFrom]
  split
  · simp_all
  · rename_i b' hb'
    rw [h] at hb'
    cases hb'
    simp only [hc]

theorem processFrom_of_success (h : Block.find? buffer.text pos = some b) {module : Bytes}
    (hc : compiler.compile state b.body b.options = (.ok (.success module), state')) :
    processFrom path d compiler buffer pos state =
      let synced := buffer.sync b.stop d.literal (Hex.encode module)
      (processFrom path d compiler synced.1 synced.2.resume state').before
        ⟨b.body, b.options, .ok (.success module)⟩
        ⟨Pass.lineOf buffer.text b, b.options, Status.ofChange synced.2.change⟩ [] := by
  rw [processFrom]
  split
  · simp_all
  · rename_i b' hb'
    rw [h] at hb'
    cases hb'
    simp only [hc]

end Loop

section Equations

variable {lines : Nat} {t : Text} {state state' : σ} {k : Block.Cut}

theorem rewriteFrom_of_none (h : Block.cut? t = none) :
    rewriteFrom path d compiler lines t state = .done ⟨t, false⟩ state := by
  rw [rewriteFrom]
  split
  · rfl
  · simp_all

theorem rewriteFrom_of_failure (h : Block.cut? t = some k) {complaints : Text}
    (hc : compiler.compile state k.body k.options = (.ok (.failure complaints), state')) :
    rewriteFrom path d compiler lines t state =
      let diagnostics :=
        Diagnostics.remap complaints (lines + k.upToBody.lineBreaks) path compiler.unitName
      ((rewriteFrom path d compiler (lines + k.upTo.lineBreaks) k.rest state').behind k.upTo
        false).before ⟨k.body, k.options, .ok (.failure complaints)⟩
        ⟨lines + k.gap.lineBreaks + 1, k.options, .failed diagnostics⟩
        (Pass.printedForm diagnostics) := by
  rw [rewriteFrom]
  split
  · simp_all
  · rename_i k' hk'
    rw [h] at hk'
    cases hk'
    simp only [hc]

theorem rewriteFrom_of_success (h : Block.cut? t = some k) {module : Bytes}
    (hc : compiler.compile state k.body k.options = (.ok (.success module), state')) :
    rewriteFrom path d compiler lines t state =
      let amended := d.literal.amend (Hex.encode module) k.rest
      let written := k.upTo ++ amended.statement
      ((rewriteFrom path d compiler (lines + written.lineBreaks) amended.rest state').behind
        written (amended.change != .unchanged)).before
        ⟨k.body, k.options, .ok (.success module)⟩
        ⟨lines + k.gap.lineBreaks + 1, k.options, Status.ofChange amended.change⟩ [] := by
  rw [rewriteFrom]
  split
  · simp_all
  · rename_i k' hk'
    rw [h] at hk'
    cases hk'
    simp only [hc]

end Equations

/-! ### Lines behind a text -/

section Lines

variable {k : Block.Cut} {r : Text}

/-- The line of a block behind `written` follows from the line breaks of
`written` and those before the block in the text behind it. -/
theorem lineOf_block (hk : k.Cuts r) (written : Text) :
    Pass.lineOf (written ++ r) (k.block (Text.size written)) =
      written.lineBreaks + k.gap.lineBreaks + 1 := by
  have hr : r = k.gap ++ (Block.written k.line k.body ++ k.rest) := by
    rw [← List.append_assoc]
    exact hk.eq
  rw [Pass.lineOf, Block.Cut.block, Text.lineBreaksBefore_append_add, hr, Text.lineBreaksBefore_size]

/-- Complaints about a body behind `written` are moved by the line breaks of
`written` and those before the body in the text behind it. -/
theorem ofBody_block (hk : k.Cuts r) (written complaints unit : Text) :
    Diagnostics.ofBody complaints (written ++ r) path unit (k.block (Text.size written)).bodyStart =
      Diagnostics.remap complaints (written.lineBreaks + k.upToBody.lineBreaks) path unit := by
  have hr : r = k.upToBody ++ (k.body ++ Block.closeMark ++ k.rest) := by
    rw [hk.eq]
    simp [Block.Cut.upTo, Block.Cut.upToBody, Block.written]
  rw [Diagnostics.ofBody, Block.Cut.block, Text.lineBreaksBefore_append_add, hr,
    Text.lineBreaksBefore_size]

end Lines

/-! ### The pass behind a text -/

/-- A pass behind `written` in a buffer that ends with `r` is the rewriter on
`r`, put behind `written`. The induction is on the text that is left; what was
written grows with every block. -/
theorem processFrom_append (written r : Text) (modified : Bool) (state : σ) {lines : Nat}
    (hlines : written.lineBreaks = lines) :
    processFrom path d compiler ⟨written ++ r, modified⟩ (Text.size written) state =
      (rewriteFrom path d compiler lines r state).behind written modified := by
  fun_induction rewriteFrom path d compiler lines r state generalizing written modified with
  | case1 lines r state hcut =>
    have hfind := Block.find?_append written r
    rw [hcut] at hfind
    rw [processFrom_of_none hfind]
    simp [Pass.done, Pass.behind, Except.map]
  | case2 lines r state k hcut state' e hcompile exchange =>
    have hfind := Block.find?_append written r
    rw [hcut] at hfind
    rw [processFrom_of_error hfind hcompile]
    rfl
  | case3 lines r state k hcut line state' complaints diagnostics hcompile exchange ih =>
    have hk := Block.cuts_of_cut?_eq_some hcut
    have hrest := ih (written ++ k.upTo) modified (by rw [Text.lineBreaks_append, hlines])
    rw [List.append_assoc, ← hk.eq, Text.size_append] at hrest
    have hfind := Block.find?_append written r
    rw [hcut] at hfind
    rw [processFrom_of_failure hfind hcompile, Pass.behind_before, Pass.behind_behind,
      Bool.or_false, ← hrest]
    simp only [lineOf_block hk, ofBody_block hk, hlines]
    rfl
  | case4 lines r state k hcut line state' module amended out hcompile exchange ih =>
    have hk := Block.cuts_of_cut?_eq_some hcut
    have hrest := ih (written ++ out) (modified || amended.change != .unchanged)
      (by rw [Text.lineBreaks_append, hlines])
    have hsync := Buffer.sync_append (written ++ k.upTo) k.rest modified d.literal
      (Hex.encode module)
    rw [List.append_assoc, ← hk.eq, Text.size_append] at hsync
    have hfind := Block.find?_append written r
    rw [hcut] at hfind
    have hstop : (k.block (Text.size written)).stop = Text.size written + Text.size k.upTo := rfl
    rw [processFrom_of_success hfind hcompile, Pass.behind_before, Pass.behind_behind, ← hrest]
    simp only [lineOf_block hk, hlines, hstop, hsync, out, List.append_assoc]
    rfl

/-- A whole pass is the rewriter at the head of the source. -/
theorem process_eq_rewriteFrom (path : Path) (d : Dialect) (compiler : Compiler σ) (source : Text)
    (state : σ) :
    process path d compiler source state = rewriteFrom path d compiler 0 source state := by
  have h : process path d compiler source state =
      (rewriteFrom path d compiler 0 source state).behind [] false :=
    processFrom_append [] source false state rfl
  rw [h, Pass.behind_nil]

/-- The pass over a source in place refines the rewriter: same outcome with the
same text and reports, same exchanges with the compiler, same output, same
state of the compiler at the end. What the rewriter reads at the head of a text
is what the pass finds there. -/
theorem process_refines_rewriteFrom (path : Path) (d : Dialect) (compiler : Compiler σ)
    (source : Text) (state : σ) :
    process path d compiler source state = rewriteFrom path d compiler 0 source state ∧
      (∀ r, Block.find? r 0 = (Block.cut? r).map (·.block 0)) ∧
      ∀ r, d.literal.match? r 0 = (d.literal.read? r).map (·.place d.literal 0) :=
  ⟨process_eq_rewriteFrom path d compiler source state, Block.find?_append [],
    d.literal.match?_append []⟩

end Rewriter

end WatInlay
