/-
Reports hold of the text that is left in the end.

A report is made in the middle of a pass, on a text that later blocks still
change. `ReportsTrue` says that nonetheless every report is true of the final
text, block by block. The invariant is that all that is done later is done
behind the block and its statement: a trace behind any text reports truly on
the two together (`Trace.reportsTrue`).
-/

import WatInlay.Proofs.Delimited
import WatInlay.Proofs.Trace

namespace WatInlay

/-! ### True reports -/

/-- A statement at offset `pos` carries the module: its payload, without what
may stand between the pieces, is the module's digits. -/
def CarriedAt (g : Literal.Grammar) (text : Text) (pos : Nat) (module : Bytes) : Prop :=
  ∃ s, g.match? text pos = some s ∧
    Literal.normalize (s.payload text) = Hex.encode module ∧
    Hex.decode? (Literal.normalize (s.payload text)) = some module

/-- What is reported on an exchange, and what the compiler answered in it, is
true of the block `b` of a text. -/
structure BlockReport.TrueOf (path : Path) (d : Dialect) (unit text : Text) (b : Block)
    (e : Exchange) (r : BlockReport) : Prop where
  found : Block.find? text b.start = some b
  body : b.body = e.body
  options : b.options = e.options
  reported : r.options = e.options
  line : r.line = Text.lineBreaksBefore text b.start + 1
  answered : ∃ outcome, e.answer = .ok outcome
  /-- The module of a block that compiled stands behind the block. -/
  success : ∀ module, e.answer = .ok (.success module) →
    r.status.diagnostics? = none ∧ CarriedAt d.literal text b.stop module
  /-- The complaints about any other block are told in the coordinates of the
  text. -/
  failure : ∀ complaints, e.answer = .ok (.failure complaints) →
    r.status = .failed (Diagnostics.ofBody complaints text path unit b.bodyStart)

/-- All reports are true of a text, in the order of the blocks, which start at
`start` or later. -/
structure ReportsTrue (path : Path) (d : Dialect) (unit text : Text) (start : Nat)
    (blocks : List Block) (exchanges : List Exchange) (reports : List BlockReport) : Prop where
  exchanges_length : exchanges.length = blocks.length
  reports_length : reports.length = blocks.length
  start_le : ∀ b ∈ blocks, start ≤ b.start
  ordered : blocks.Pairwise (·.start < ·.start)
  each : ∀ (k : Nat) (b : Block) (e : Exchange) (r : BlockReport),
    blocks[k]? = some b → exchanges[k]? = some e → reports[k]? = some r →
      r.TrueOf path d unit text b e

namespace ReportsTrue

variable {path : Path} {d : Dialect} {unit text : Text} {start stop : Nat}
  {blocks : List Block} {exchanges : List Exchange} {reports : List BlockReport}

theorem nil : ReportsTrue path d unit text start [] [] [] where
  exchanges_length := rfl
  reports_length := rfl
  start_le := by simp
  ordered := .nil
  each := by simp

/-- One more true report, on a block before all others. -/
theorem cons {b : Block} {e : Exchange} {r : BlockReport} (hstart : start ≤ b.start)
    (hstop : b.stop ≤ stop) (hb : r.TrueOf path d unit text b e)
    (h : ReportsTrue path d unit text stop blocks exchanges reports) :
    ReportsTrue path d unit text start (b :: blocks) (e :: exchanges) (r :: reports) := by
  have hlong := (Block.find?_bounds hb.found).2.1
  refine ⟨by simp [h.exchanges_length], by simp [h.reports_length], ?_, ?_, ?_⟩
  · intro c hc
    rcases List.mem_cons.mp hc with rfl | hc
    · exact hstart
    · have := h.start_le c hc
      omega
  · refine List.pairwise_cons.mpr ⟨?_, h.ordered⟩
    intro c hc
    have := h.start_le c hc
    omega
  · intro k c e' r' hc he hr
    cases k with
    | zero =>
      cases hc
      cases he
      cases hr
      exact hb
    | succ k => exact h.each k c e' r' hc he hr

end ReportsTrue

/-! ### Traces -/

/-- An amended statement carries the module, whatever stands behind it. -/
theorem carriedAt_amend {g : Literal.Grammar} (hg : g.SelfDelimiting) (module : Bytes)
    (p t y : Text) :
    CarriedAt g (p ++ ((g.amend (Hex.encode module) t).statement ++ y)) (Text.size p) module := by
  obtain ⟨k, hread, -, -, hpayload⟩ := hg.read?_amend (Hex.semicolon_not_mem_encode module)
    (Hex.normalize_encode module) t y
  refine ⟨k.place g (Text.size p), ?_, ?_⟩
  · rw [Literal.Grammar.match?_append, hread]
    rfl
  · rw [Literal.Reading.payload_place hread p, hpayload]
    exact ⟨rfl, Hex.decode?_encode module⟩

theorem Status.diagnostics?_ofChange (c : Change) : (ofChange c).diagnostics? = none := by
  cases c <;> rfl

/-- A trace behind any text reports truly on the two together. -/
theorem Trace.reportsTrue {path : Path} {d : Dialect} {unit t : Text} {lines : Nat}
    {exchanges : List Exchange} {p : Processed} (hd : d.literal.SelfDelimiting)
    (h : Trace path d unit lines t exchanges p) (written : Text)
    (hlines : written.lineBreaks = lines) :
    ∃ blocks, ReportsTrue path d unit (written ++ p.text) (Text.size written) blocks exchanges
      p.blocks := by
  induction h generalizing written with
  | done hcut => exact ⟨[], .nil⟩
  | @failed lines t k complaints exchanges p hcut _ ih =>
    have hk := Block.cuts_of_cut?_eq_some (Block.cut?_upTo_append hcut p.text)
    obtain ⟨blocks, hrest⟩ := ih (written ++ k.upTo) (by rw [Text.lineBreaks_append, hlines])
    rw [List.append_assoc] at hrest
    refine ⟨k.block (Text.size written) :: blocks, hrest.cons ?_ ?_ ?_⟩
    · exact Nat.le_add_right _ _
    · exact Nat.le_of_eq (Text.size_append _ _).symm
    · exact {
        found := hk.find?_start written
        body := rfl
        options := rfl
        reported := rfl
        line := hlines ▸ (lineOf_block hk written).symm
        answered := ⟨_, rfl⟩
        success := by rintro _ ⟨⟩
        failure := by
          rintro _ ⟨⟩
          rw [← hlines]
          exact congrArg Status.failed (ofBody_block hk written complaints unit).symm }
  | @synced lines t k module amended exchanges p hcut hamended _ ih =>
    have hk := Block.cuts_of_cut?_eq_some
      (Block.cut?_upTo_append hcut (amended.statement ++ p.text))
    obtain ⟨blocks, hrest⟩ := ih (written ++ (k.upTo ++ amended.statement))
      (by rw [Text.lineBreaks_append, hlines])
    have htext : written ++ (k.upTo ++ amended.statement) ++ p.text =
        written ++ (k.upTo ++ (amended.statement ++ p.text)) := by simp
    rw [htext] at hrest
    have hcarried := carriedAt_amend hd module (written ++ k.upTo) k.rest p.text
    rw [hamended, List.append_assoc, Text.size_append] at hcarried
    refine ⟨k.block (Text.size written) :: blocks, ?_⟩
    rw [Processed.behind, List.append_assoc]
    refine hrest.cons ?_ ?_ ?_
    · exact Nat.le_add_right _ _
    · simp [Block.Cut.block]
    · exact {
        found := hk.find?_start written
        body := rfl
        options := rfl
        reported := rfl
        line := hlines ▸ (lineOf_block hk written).symm
        answered := ⟨_, rfl⟩
        success := by
          rintro _ ⟨⟩
          exact ⟨Status.diagnostics?_ofChange _, hcarried⟩
        failure := by rintro _ ⟨⟩ }

/-! ### Passes -/

/-- Every report of a pass is true of the text that the pass leaves. -/
theorem process_reportsTrue {σ : Type} {path : Path} {d : Dialect} (hd : d ∈ Dialect.all)
    {compiler : Compiler σ} {source : Text} {state : σ} {p : Processed}
    (hok : (process path d compiler source state).outcome = .ok p) :
    ∃ blocks, ReportsTrue path d compiler.unitName p.text 0 blocks
      (process path d compiler source state).exchanges p.blocks := by
  rw [process_eq_rewriteFrom] at hok ⊢
  exact (trace_of_outcome_eq_ok p hok).reportsTrue (Literal.selfDelimiting_of_mem_all hd) [] rfl

/-- A failed block, an updated one and one with a new statement. -/
theorem process_reportsTrue_sample :
    ∃ p, (process "s.rs".toList .rust (.scripted "u".toList) sampleSource sampleAnswers).outcome =
        .ok p ∧
      ∃ blocks, ReportsTrue "s.rs".toList .rust "u".toList p.text 0 blocks
        (process "s.rs".toList .rust (.scripted "u".toList) sampleSource sampleAnswers).exchanges
        p.blocks := by
  obtain ⟨p, hok, -⟩ := process_sample
  exact ⟨p, hok, process_reportsTrue (by decide) hok⟩

end WatInlay
