/-
A second pass changes nothing.

Under a grammar that delimits its statements, the text that a pass leaves has a
trace with the same exchanges, in which every statement is kept
(`Trace.settled`). Each block is found where it was, since what follows a block
has no part in finding it, and each statement is read back at its full length
before whatever follows it; a failed block leaves both passes at the same
place. So a compiler that gives the same answers is asked the same questions.
-/

import WatInlay.Proofs.Delimited
import WatInlay.Proofs.Trace

namespace WatInlay

/-- The report on a block when the same answer is given once more: what
compiled is already there. -/
def Exchange.settle (e : Exchange) (r : BlockReport) : BlockReport :=
  match e.answer with
  | .ok (.success _) => { r with status := .unchanged }
  | _ => r

/-- A text after one more pass with the same exchanges. -/
def Processed.settled (p : Processed) (exchanges : List Exchange) : Processed where
  text := p.text
  modified := false
  blocks := List.zipWith Exchange.settle exchanges p.blocks

/-! ### Traces -/

namespace Trace

variable {path : Path} {d : Dialect} {unit : Text} {lines : Nat} {t : Text}
  {exchanges : List Exchange} {p : Processed}

/-- There is one report for each exchange. -/
theorem length_blocks (h : Trace path d unit lines t exchanges p) :
    p.blocks.length = exchanges.length := by
  induction h with
  | done => rfl
  | failed _ _ ih => exact congrArg Nat.succ ih
  | synced _ _ _ ih => exact congrArg Nat.succ ih

/-- The text that is left has a trace with the same exchanges that leaves it as
it is. -/
theorem settled (hd : d.literal.SelfDelimiting) (h : Trace path d unit lines t exchanges p) :
    Trace path d unit lines p.text exchanges (p.settled exchanges) := by
  induction h with
  | done hcut => exact .done hcut
  | @failed lines t k complaints exchanges p hcut _ ih =>
    have hagain := Block.cut?_upTo_append hcut p.text
    exact .failed hagain ih
  | @synced lines t k module amended exchanges p hcut hamended _ ih =>
    subst hamended
    have hagain := Block.cut?_upTo_append hcut
      ((d.literal.amend (Hex.encode module) k.rest).statement ++ p.text)
    rw [← List.append_assoc] at hagain
    have hkept := hd.amend_statement (Hex.semicolon_not_mem_encode module)
      (Hex.normalize_encode module) k.rest p.text
    exact .synced hagain hkept ih

end Trace

/-! ### Passes -/

/-- Idempotence by replay: when a compiler that calls its input the same gives
the answers of a pass once more, a pass over the text that was left asks it the
same questions, leaves the text as it is, and reports every block that compiled
as unchanged and every other block as before. -/
theorem process_replay {σ τ : Type} {path : Path} {d : Dialect} (hd : d ∈ Dialect.all)
    {compiler : Compiler σ} {source : Text} {state : σ} {p : Processed}
    (hok : (process path d compiler source state).outcome = .ok p)
    {again : Compiler τ} {state' : τ} (hunit : again.unitName = compiler.unitName)
    (hreplay : again.Replays state' (process path d compiler source state).exchanges) :
    (process path d again p.text state').outcome =
        .ok (p.settled (process path d compiler source state).exchanges) ∧
      (process path d again p.text state').exchanges =
        (process path d compiler source state).exchanges ∧
      p.blocks.length = (process path d compiler source state).exchanges.length := by
  rw [process_eq_rewriteFrom] at hok hreplay
  have htrace := trace_of_outcome_eq_ok p hok
  have hsettled := htrace.settled (Literal.selfDelimiting_of_mem_all hd)
  rw [← hunit] at hsettled
  obtain ⟨houtcome, hexchanges⟩ := hsettled.outcome_eq_ok hreplay
  rw [process_eq_rewriteFrom, process_eq_rewriteFrom]
  exact ⟨houtcome, hexchanges, htrace.length_blocks⟩

/-- A failed block, an updated one and one with a new statement. -/
theorem process_replay_sample :
    ∃ p, (process "s.rs".toList .rust (.scripted "u".toList) sampleSource sampleAnswers).outcome =
        .ok p ∧
      p.blocks.map (·.status.name) = ["failed".toList, "updated".toList, "inserted".toList] ∧
      (process "s.rs".toList .rust (.scripted "u".toList) p.text sampleAnswers).outcome = .ok
        (p.settled (process "s.rs".toList .rust (.scripted "u".toList) sampleSource
          sampleAnswers).exchanges) := by
  obtain ⟨p, hok, hstatus⟩ := process_sample
  have hreplay := replays_exchanges "s.rs".toList .rust (.scripted "u".toList) 0 sampleSource
    sampleAnswers
  rw [← process_eq_rewriteFrom] at hreplay
  exact ⟨p, hok, hstatus, (process_replay (by decide) hok rfl hreplay).1⟩

end WatInlay
