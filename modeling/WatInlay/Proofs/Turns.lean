/-
The pass turn by turn.

A `Stage` is what a pass holds before it looks for the next block: its buffer,
where reading goes on, and the compiler's state. A `Turn` deals with one block,
and `Turns` is a whole pass. The invariant is that reading goes on at a character
boundary: then every offset that the turn uses lies on one, the turn leaves the
next stage on one, and at least the fourteen bytes of a block less to read
(`Stage.safe_turn`). The text may grow with every turn, so that it is not its
length that ends a pass but what is left of it.
-/

import WatInlay.Proofs.Rewriter
import WatInlay.Proofs.Scan

namespace WatInlay

/-! ### Stages and turns -/

/-- What a pass holds between two blocks. -/
structure Stage (σ : Type) where
  buffer : Buffer
  /-- Where reading goes on. -/
  pos : Nat
  state : σ

/-- What is done with one block. -/
structure Turn (σ : Type) where
  /-- Where the block was looked for. -/
  stage : Stage σ
  block : Block
  answer : Except ToolError Outcome
  /-- The compiler's state after its answer. -/
  state : σ

section

variable {σ : Type}

/-- What is left to read. -/
def Stage.tail (s : Stage σ) : Text :=
  s.buffer.text.after s.pos

/-- The turn for the next block, if there is one. -/
def Stage.turn? (compiler : Compiler σ) (s : Stage σ) : Option (Turn σ) :=
  (Block.find? s.buffer.text s.pos).map fun block =>
    let (answer, state) := compiler.compile s.state block.body block.options
    { stage := s, block, answer, state }

namespace Turn

/-- The question to the compiler and its answer. -/
def exchange (t : Turn σ) : Exchange :=
  ⟨t.block.body, t.block.options, t.answer⟩

/-- The diagnostics of the block, in the coordinates of the source as it stood at
its turn, if the block failed to compile. -/
def diagnostics? (path unit : Path) (t : Turn σ) : Option Text :=
  match t.answer with
  | .ok (.failure complaints) =>
    some (Diagnostics.ofBody complaints t.stage.buffer.text path unit t.block.bodyStart)
  | _ => none

/-- What the turn changes in the buffer. -/
def edit? (d : Dialect) (t : Turn σ) : Option Edit :=
  match t.answer with
  | .ok (.success module) =>
    t.stage.buffer.syncEdit? t.block.stop d.literal (Hex.encode module)
  | _ => none

/-- The stage after the turn, unless an error ends the pass. -/
def next? (d : Dialect) (t : Turn σ) : Option (Stage σ) :=
  match t.answer with
  | .error _ => none
  | .ok (.failure _) => some { buffer := t.stage.buffer, pos := t.block.stop, state := t.state }
  | .ok (.success module) =>
    let synced := t.stage.buffer.sync t.block.stop d.literal (Hex.encode module)
    some { buffer := synced.1, pos := synced.2.resume, state := t.state }

end Turn

/-- The turns of a whole pass from a stage on, in order. -/
inductive Turns (d : Dialect) (compiler : Compiler σ) : Stage σ → List (Turn σ) → Prop where
  | done {s} : s.turn? compiler = none → Turns d compiler s []
  | aborted {s t} : s.turn? compiler = some t → t.next? d = none → Turns d compiler s [t]
  | more {s s' t turns} : s.turn? compiler = some t → t.next? d = some s' →
      Turns d compiler s' turns → Turns d compiler s (t :: turns)

/-- All offsets of a turn can be used, and less is left to read after it. -/
structure Turn.Safe (d : Dialect) (t : Turn σ) : Prop where
  boundary : t.stage.buffer.text.IsBoundary t.stage.pos
  stop : t.stage.buffer.text.IsBoundary t.block.stop
  /-- Both ends of the edit lie in the text, on character boundaries. -/
  fits : ∀ e, t.edit? d = some e →
    e.Fits t.stage.buffer.text ∧ e.stop ≤ t.stage.buffer.text.size
  /-- The payload that is replaced is no longer than what stands before the end
  of its statement, and the tail of the statement no longer than that. -/
  lengths : ∀ s, d.literal.match? t.stage.buffer.text t.block.stop = some s →
    s.payloadStart ≤ s.payloadStop ∧ s.payloadStop - s.payloadStart ≤ s.stop ∧
      d.literal.tail.size ≤ s.stop
  /-- The edit is all that is changed. -/
  result : ∀ s, t.next? d = some s →
    s.buffer.text = match t.edit? d with
      | none => t.stage.buffer.text
      | some e => e.result t.stage.buffer.text
  next_boundary : ∀ s, t.next? d = some s →
    s.buffer.text.IsBoundary s.pos ∧ s.pos ≤ s.buffer.text.size
  forward : ∀ s, t.next? d = some s → t.stage.pos < s.pos
  shrinks : ∀ s, t.next? d = some s → s.tail.size + 14 ≤ t.stage.tail.size

/-! ### One turn -/

variable {d : Dialect} {compiler : Compiler σ} {s s' : Stage σ} {t : Turn σ}

theorem Stage.size_tail (hpos : s.buffer.text.IsBoundary s.pos) :
    s.tail.size = s.buffer.text.size - s.pos :=
  hpos.size_after

/-- A turn deals with the block that is found, as the compiler answers it. -/
theorem Stage.turn?_eq_some_iff :
    s.turn? compiler = some t ↔
      t.stage = s ∧ Block.find? s.buffer.text s.pos = some t.block ∧
        compiler.compile s.state t.block.body t.block.options = (t.answer, t.state) := by
  obtain ⟨stage, block, answer, state⟩ := t
  simp only [turn?, Option.map_eq_some_iff, Turn.mk.injEq]
  constructor
  · rintro ⟨b, hb, rfl, rfl, rfl, rfl⟩
    exact ⟨rfl, hb, rfl⟩
  · rintro ⟨rfl, hb, hcompile⟩
    exact ⟨block, hb, rfl, rfl, congrArg Prod.fst hcompile, congrArg Prod.snd hcompile⟩

/-- What a turn leaves behind it: the same buffer behind a block that failed, or
the buffer brought up to date behind one that compiled. -/
theorem Turn.next?_eq_some_iff :
    t.next? d = some s ↔
      (∃ complaints, t.answer = .ok (.failure complaints) ∧
        s = ⟨t.stage.buffer, t.block.stop, t.state⟩) ∨
      ∃ module, t.answer = .ok (.success module) ∧
        s = ⟨(t.stage.buffer.sync t.block.stop d.literal (Hex.encode module)).1,
          (t.stage.buffer.sync t.block.stop d.literal (Hex.encode module)).2.resume, t.state⟩ := by
  unfold next?
  cases t.answer with
  | error e => simp
  | ok outcome =>
    cases outcome with
    | failure complaints => simp [eq_comm]
    | success module => simp [eq_comm]

/-- The step of the invariant: from a character boundary a turn is safe. -/
theorem Stage.safe_turn (hpos : s.buffer.text.IsBoundary s.pos) (h : s.turn? compiler = some t) :
    t.Safe d := by
  obtain ⟨rfl, hfind, -⟩ := turn?_eq_some_iff.mp h
  obtain ⟨hstart, hlong, hstop⟩ := Block.find?_bounds hfind
  have hin := hstop.le_size
  refine ⟨hpos, hstop, ?_, ?_, ?_, ?_, ?_, ?_⟩
  · intro e he
    unfold Turn.edit? at he
    split at he
    · have hfits := Buffer.fits_syncEdit? hstop he
      exact ⟨hfits, hfits.2.2.le_size⟩
    · cases he
  · intro s hs
    obtain ⟨h1, h2, h3, -⟩ := Literal.Grammar.match?_bounds hs
    omega
  · intro s hs
    rcases Turn.next?_eq_some_iff.mp hs with ⟨complaints, hanswer, rfl⟩ | ⟨module, hanswer, rfl⟩
    · simp only [Turn.edit?, hanswer]
    · simp only [Turn.edit?, hanswer]
      exact Buffer.text_sync _ _ _ _
  · intro s hs
    rcases Turn.next?_eq_some_iff.mp hs with ⟨complaints, -, rfl⟩ | ⟨module, -, rfl⟩
    · exact ⟨hstop, hin⟩
    · have hresume := (Buffer.resume_sync hstop d.literal (Hex.encode module)).2
      exact ⟨hresume, hresume.le_size⟩
  · intro s hs
    rcases Turn.next?_eq_some_iff.mp hs with ⟨complaints, -, rfl⟩ | ⟨module, -, rfl⟩
    · simp only
      omega
    · have hle := (Buffer.resume_sync hstop d.literal (Hex.encode module)).1
      simp only
      omega
  · intro s hs
    rw [size_tail hpos]
    rcases Turn.next?_eq_some_iff.mp hs with ⟨complaints, -, rfl⟩ | ⟨module, -, rfl⟩
    · rw [size_tail hstop]
      simp only
      omega
    · rw [size_tail (Buffer.resume_sync hstop d.literal (Hex.encode module)).2]
      have hle := Buffer.tail_sync_le t.stage.buffer t.block.stop d.literal (Hex.encode module)
      simp only
      omega

/-! ### Whole passes -/

/-- A block takes fourteen bytes, so a turn is only made where as many are left. -/
theorem Stage.le_size_tail_of_turn? (hpos : s.buffer.text.IsBoundary s.pos)
    (h : s.turn? compiler = some t) : 14 ≤ s.tail.size := by
  obtain ⟨-, hfind, -⟩ := turn?_eq_some_iff.mp h
  obtain ⟨hstart, hlong, hstop⟩ := Block.find?_bounds hfind
  have := hstop.le_size
  rw [size_tail hpos]
  omega

/-- From a character boundary a pass comes to its end, all its turns are safe,
and there are no more of them than blocks could stand in what is left. The
induction is on the size of what is left. -/
theorem Stage.exists_turns (d : Dialect) (compiler : Compiler σ) (s : Stage σ)
    (hpos : s.buffer.text.IsBoundary s.pos) :
    ∃ turns, Turns d compiler s turns ∧ 14 * turns.length ≤ s.tail.size ∧
      ∀ t ∈ turns, t.Safe d := by
  induction hn : s.tail.size using Nat.strongRecOn generalizing s with
  | ind n ih =>
    cases hturn : s.turn? compiler with
    | none => exact ⟨[], .done hturn, Nat.zero_le _, by simp⟩
    | some t =>
      have hsafe : t.Safe d := safe_turn hpos hturn
      have hlong := le_size_tail_of_turn? hpos hturn
      obtain ⟨hstage, -⟩ := turn?_eq_some_iff.mp hturn
      cases hnext : t.next? d with
      | none => exact ⟨[t], .aborted hturn hnext, by simp; omega, by simpa using hsafe⟩
      | some s' =>
        have hshrinks := hsafe.shrinks s' hnext
        rw [hstage, hn] at hshrinks
        obtain ⟨turns, hturns, hlength, hall⟩ :=
          ih s'.tail.size (by omega) s' (hsafe.next_boundary s' hnext).1 rfl
        refine ⟨t :: turns, .more hturn hnext hturns, ?_, ?_⟩
        · rw [List.length_cons]
          omega
        · intro t' ht'
          rcases List.mem_cons.mp ht' with rfl | ht'
          · exact hsafe
          · exact hall t' ht'

/-- There is one way to make the turns of a pass. -/
theorem Turns.unique {turns turns' : List (Turn σ)} (h : Turns d compiler s turns)
    (h' : Turns d compiler s turns') : turns = turns' := by
  induction h generalizing turns' with
  | done hturn =>
    cases h' with
    | done => rfl
    | aborted hturn' | more hturn' => cases hturn.symm.trans hturn'
  | aborted hturn hnext =>
    cases h' with
    | done hturn' => cases hturn'.symm.trans hturn
    | aborted hturn' =>
      cases hturn'.symm.trans hturn
      rfl
    | more hturn' hnext' =>
      cases hturn'.symm.trans hturn
      cases hnext.symm.trans hnext'
  | more hturn hnext _ ih =>
    cases h' with
    | done hturn' => cases hturn'.symm.trans hturn
    | aborted hturn' hnext' =>
      cases hturn'.symm.trans hturn
      cases hnext'.symm.trans hnext
    | more hturn' hnext' hrest =>
      cases hturn'.symm.trans hturn
      cases hnext'.symm.trans hnext
      exact congrArg (List.cons _) (ih hrest)

/-! ### Passes as turns -/

/-- The pass from a stage on that finds no block any more. -/
theorem Stage.processFrom_of_done (path : Path) (hturn : s.turn? compiler = none) :
    processFrom path d compiler s.buffer s.pos s.state = .done s.buffer s.state := by
  refine processFrom_of_none ?_
  simpa [turn?] using hturn

/-- The pass from a stage on that ends with the next turn. -/
theorem Stage.processFrom_of_aborted (path : Path) (hturn : s.turn? compiler = some t)
    (hnext : t.next? d = none) :
    t.diagnostics? path compiler.unitName = none ∧
      ∃ e, processFrom path d compiler s.buffer s.pos s.state = .aborted e t.exchange t.state := by
  obtain ⟨rfl, hfind, hcompile⟩ := turn?_eq_some_iff.mp hturn
  cases hanswer : t.answer with
  | error e =>
    rw [hanswer] at hcompile
    refine ⟨by simp only [Turn.diagnostics?, hanswer], e, ?_⟩
    rw [processFrom_of_error hfind hcompile, Turn.exchange, hanswer]
  | ok outcome => cases outcome <;> simp [Turn.next?, hanswer] at hnext

/-- The pass from a stage on that goes on after the next turn: what the turn
reports and prints agrees on the diagnostics. -/
theorem Stage.processFrom_of_next (path : Path) (hturn : s.turn? compiler = some t)
    (hnext : t.next? d = some s') :
    ∃ report, report.status.diagnostics? = t.diagnostics? path compiler.unitName ∧
      processFrom path d compiler s.buffer s.pos s.state =
        (processFrom path d compiler s'.buffer s'.pos s'.state).before t.exchange report
          ((t.diagnostics? path compiler.unitName).elim [] Pass.printedForm) := by
  obtain ⟨rfl, hfind, hcompile⟩ := turn?_eq_some_iff.mp hturn
  rcases Turn.next?_eq_some_iff.mp hnext with ⟨complaints, hanswer, rfl⟩ | ⟨module, hanswer, rfl⟩
  · have hdiagnostics : t.diagnostics? path compiler.unitName = some (Diagnostics.ofBody complaints
        t.stage.buffer.text path compiler.unitName t.block.bodyStart) := by
      simp only [Turn.diagnostics?, hanswer]
    rw [hanswer] at hcompile
    rw [hdiagnostics, processFrom_of_failure hfind hcompile, Turn.exchange, hanswer]
    exact ⟨_, rfl, rfl⟩
  · have hdiagnostics : t.diagnostics? path compiler.unitName = none := by
      simp only [Turn.diagnostics?, hanswer]
    rw [hanswer] at hcompile
    rw [hdiagnostics, processFrom_of_success hfind hcompile, Turn.exchange, hanswer]
    refine ⟨_, ?_, rfl⟩
    cases (t.stage.buffer.sync t.block.stop d.literal (Hex.encode module)).2.change <;> rfl

/-- The turns are the pass: it asks the compiler what they ask, in their order. -/
theorem Turns.exchanges_eq {turns : List (Turn σ)} (h : Turns d compiler s turns) (path : Path) :
    (processFrom path d compiler s.buffer s.pos s.state).exchanges = turns.map Turn.exchange := by
  induction h with
  | done hturn =>
    rw [Stage.processFrom_of_done path hturn]
    rfl
  | aborted hturn hnext =>
    obtain ⟨-, e, hpass⟩ := Stage.processFrom_of_aborted path hturn hnext
    rw [hpass]
    rfl
  | more hturn hnext _ ih =>
    obtain ⟨report, -, hpass⟩ := Stage.processFrom_of_next path hturn hnext
    rw [hpass, Pass.before, ih, List.map_cons]

/-- A pass over any source, under any grammar and with any compiler, comes to an
end after at most one question for every fourteen bytes of the source. In each
turn reading goes forward, less is left to read, and all offsets lie in the text
and on character boundaries; so do those at which the diagnostics of a failed
block are changed. -/
theorem process_turns_safe (path : Path) (d : Dialect) (compiler : Compiler σ) (source : Text)
    (state : σ) :
    ∃ turns, Turns d compiler ⟨⟨source, false⟩, 0, state⟩ turns ∧
      (process path d compiler source state).exchanges = turns.map Turn.exchange ∧
      turns.length ≤ source.size / 14 ∧ (∀ t ∈ turns, t.Safe d) ∧
      ∀ (shift : Nat) (s : Diagnostics.Scan), s.Safe compiler.unitName shift := by
  have hstart : source.IsBoundary 0 := Text.isBoundary_iff.mpr ⟨[], source, rfl, rfl⟩
  obtain ⟨turns, hturns, hlength, hsafe⟩ :=
    Stage.exists_turns d compiler ⟨⟨source, false⟩, 0, state⟩ hstart
  refine ⟨turns, hturns, hturns.exchanges_eq path, ?_, hsafe, fun shift s => s.safe _ shift⟩
  have htail : (Stage.tail ⟨⟨source, false⟩, 0, state⟩).size = source.size := hstart.size_after
  rw [Nat.le_div_iff_mul_le (by decide)]
  omega

end

end WatInlay
