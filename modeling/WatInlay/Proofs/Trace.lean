/-
Passes that end well, as derivations.

A `Trace` says how a text is dealt with block by block: which questions were
put to a compiler, what it answered, and what came of the text. It names no
compiler. Every pass that ends well has a trace, and a trace is the pass of
every compiler that gives its answers (`rewriteFrom_eq_ok_iff`), so that what
holds of all traces holds of all passes.
-/

import WatInlay.Proofs.Rewriter

namespace WatInlay

/-! ### Traces -/

/-- What came of a text and its first block, given what came of the text behind
the block. -/
def Processed.behind (rest : Processed) (text : Text) (changed : Bool) (report : BlockReport) :
    Processed where
  text := text ++ rest.text
  modified := changed || rest.modified
  blocks := report :: rest.blocks

/-- The text behind `lines` line breaks is dealt with block by block, in these
exchanges with a compiler that calls its input `unit`. -/
inductive Trace (path : Path) (d : Dialect) (unit : Text) :
    Nat → Text → List Exchange → Processed → Prop where
  | done {lines t} :
      Block.cut? t = none →
      Trace path d unit lines t [] ⟨t, false, []⟩
  | failed {lines t k complaints exchanges p} :
      Block.cut? t = some k →
      Trace path d unit (lines + k.upTo.lineBreaks) k.rest exchanges p →
      Trace path d unit lines t (⟨k.body, k.options, .ok (.failure complaints)⟩ :: exchanges)
        (p.behind k.upTo false
          ⟨lines + k.gap.lineBreaks + 1, k.options,
            .failed (Diagnostics.remap complaints (lines + k.upToBody.lineBreaks) path unit)⟩)
  | synced {lines t k module amended exchanges p} :
      Block.cut? t = some k →
      d.literal.amend (Hex.encode module) k.rest = amended →
      Trace path d unit (lines + (k.upTo ++ amended.statement).lineBreaks) amended.rest exchanges p →
      Trace path d unit lines t (⟨k.body, k.options, .ok (.success module)⟩ :: exchanges)
        (p.behind (k.upTo ++ amended.statement) (amended.change != .unchanged)
          ⟨lines + k.gap.lineBreaks + 1, k.options, Status.ofChange amended.change⟩)

/-- Asked the questions of the exchanges in order, the compiler gives their
answers. -/
def Compiler.Replays {σ : Type} (compiler : Compiler σ) : σ → List Exchange → Prop
  | _, [] => True
  | state, e :: exchanges =>
    (compiler.compile state e.body e.options).1 = e.answer ∧
      compiler.Replays (compiler.compile state e.body e.options).2 exchanges

/-- A compiler that gives listed answers in turn gives those of any exchanges. -/
theorem Compiler.scripted_replays (unit : Text) (exchanges : List Exchange) :
    (Compiler.scripted unit).Replays (exchanges.map (·.answer)) exchanges := by
  induction exchanges with
  | nil => trivial
  | cons e exchanges ih => exact ⟨rfl, ih⟩

/-! ### Traces and passes -/

section

variable {σ : Type} {path : Path} {d : Dialect} {compiler : Compiler σ} {lines : Nat} {t : Text}
  {state : σ}

theorem Pass.outcome_before_behind_eq_ok_iff {rest : Pass σ} {exchange : Exchange}
    {report : BlockReport} {printed text : Text} {changed : Bool} {p : Processed} :
    ((rest.behind text changed).before exchange report printed).outcome = .ok p ↔
      ∃ q, rest.outcome = .ok q ∧ q.behind text changed report = p := by
  simp only [Pass.before, Pass.behind, Processed.behind]
  cases rest.outcome <;> simp [Except.map]

/-- Every pass that ends well has a trace. -/
theorem trace_of_outcome_eq_ok (p : Processed) :
    (rewriteFrom path d compiler lines t state).outcome = .ok p →
      Trace path d compiler.unitName lines t (rewriteFrom path d compiler lines t state).exchanges
        p := by
  fun_induction rewriteFrom path d compiler lines t state generalizing p with
  | case1 lines t state hcut =>
    rintro ⟨⟩
    exact .done hcut
  | case2 lines t state k hcut state' e hcompile exchange => rintro ⟨⟩
  | case3 lines t state k hcut line state' complaints diagnostics hcompile exchange ih =>
    intro h
    obtain ⟨q, hq, rfl⟩ := Pass.outcome_before_behind_eq_ok_iff.mp h
    exact .failed hcut (ih q hq)
  | case4 lines t state k hcut line state' module amended written hcompile exchange ih =>
    intro h
    obtain ⟨q, hq, rfl⟩ := Pass.outcome_before_behind_eq_ok_iff.mp h
    exact .synced hcut rfl (ih q hq)

/-- A compiler repeats its own answers when it is asked again from the same
state. -/
theorem replays_exchanges (path : Path) (d : Dialect) (compiler : Compiler σ) (lines : Nat)
    (t : Text) (state : σ) :
    compiler.Replays state (rewriteFrom path d compiler lines t state).exchanges := by
  fun_induction rewriteFrom path d compiler lines t state with
  | case1 lines t state hcut => trivial
  | case2 lines t state k hcut state' e hcompile exchange =>
    exact ⟨congrArg Prod.fst hcompile, trivial⟩
  | case3 lines t state k hcut line state' complaints diagnostics hcompile exchange ih =>
    refine ⟨congrArg Prod.fst hcompile, ?_⟩
    rw [hcompile]
    exact ih
  | case4 lines t state k hcut line state' module amended written hcompile exchange ih =>
    refine ⟨congrArg Prod.fst hcompile, ?_⟩
    rw [hcompile]
    exact ih

/-- A trace is the pass of every compiler that gives its answers. -/
theorem Trace.outcome_eq_ok {exchanges : List Exchange} {p : Processed}
    (h : Trace path d compiler.unitName lines t exchanges p)
    (hreplay : compiler.Replays state exchanges) :
    (rewriteFrom path d compiler lines t state).outcome = .ok p ∧
      (rewriteFrom path d compiler lines t state).exchanges = exchanges := by
  induction h generalizing state with
  | done hcut =>
    rw [rewriteFrom_of_none hcut]
    exact ⟨rfl, rfl⟩
  | @failed lines t k complaints exchanges p hcut _ ih =>
    obtain ⟨hanswer, hreplay⟩ := hreplay
    obtain ⟨houtcome, hexchanges⟩ := ih hreplay
    rw [rewriteFrom_of_failure hcut (Prod.ext hanswer rfl)]
    exact ⟨Pass.outcome_before_behind_eq_ok_iff.mpr ⟨p, houtcome, rfl⟩,
      congrArg (List.cons _) hexchanges⟩
  | @synced lines t k module amended exchanges p hcut hamended _ ih =>
    obtain ⟨hanswer, hreplay⟩ := hreplay
    obtain ⟨houtcome, hexchanges⟩ := ih hreplay
    subst hamended
    rw [rewriteFrom_of_success hcut (Prod.ext hanswer rfl)]
    exact ⟨Pass.outcome_before_behind_eq_ok_iff.mpr ⟨p, houtcome, rfl⟩,
      congrArg (List.cons _) hexchanges⟩

end

/-! ### A sample -/

/-- Three blocks, one with an outdated literal statement. -/
def sampleSource : Text :=
  "/* wat2wasm\na*/\n/* wat2wasm --o\nb*/let w = hex::decode(\"\").unwrap();/* wat2wasm\nc*/".toList

/-- Answers to the three blocks. -/
def sampleAnswers : List (Except ToolError Outcome) :=
  [.ok (.failure "u:1: no".toList), .ok (.success [0xAB]), .ok (.success [1])]

theorem process_sample :
    ∃ p, (process "s.rs".toList .rust (.scripted "u".toList) sampleSource sampleAnswers).outcome =
        .ok p ∧
      p.blocks.map (·.status.name) = ["failed".toList, "updated".toList, "inserted".toList] := by
  have hfirst : Block.cut? sampleSource = some ⟨[], [], "a".toList, sampleSource.drop 15⟩ := by cbv
  have hsecond : Block.cut? (sampleSource.drop 15) =
      some ⟨"\n".toList, " --o".toList, "b".toList, sampleSource.drop 35⟩ := by cbv
  have hupdated : Dialect.rust.literal.amend (Hex.encode [0xAB]) (sampleSource.drop 35) =
      ⟨"let w = hex::decode(\"ab\").unwrap();".toList, .updated, sampleSource.drop 68⟩ := by decide
  have hthird : Block.cut? (sampleSource.drop 68) = some ⟨[], [], "c".toList, []⟩ := by cbv
  have hinserted : Dialect.rust.literal.amend (Hex.encode [1]) [] =
      ⟨"let wasm = hex::decode(\"01\").unwrap();".toList, .inserted, []⟩ := by decide
  have h : Trace "s.rs".toList .rust "u".toList 0 sampleSource
      [⟨_, _, .ok (.failure "u:1: no".toList)⟩, ⟨_, _, .ok (.success [0xAB])⟩,
        ⟨_, _, .ok (.success [1])⟩] _ :=
    .failed hfirst (.synced hsecond hupdated (.synced hthird hinserted (.done rfl)))
  obtain ⟨hok, -⟩ := h.outcome_eq_ok (Compiler.scripted_replays "u".toList _)
  rw [← process_eq_rewriteFrom] at hok
  exact ⟨_, hok, rfl⟩

end WatInlay
