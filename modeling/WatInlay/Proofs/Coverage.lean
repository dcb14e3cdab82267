/-
Every block of a source is accounted for.

`Coverage` says which blocks of a source a pass puts to the compiler: blocks
that stand in the source as it was read, in order and apart from each other,
and every other block lies inside one of them or inside the literal statement
behind one that compiled. The pass looks for them in a text it has changed
already; its trace, read on the source instead, skips the statement that stood
there where the pass skips the one it has put there (`Trace.coverage`).
-/

import WatInlay.Proofs.Search
import WatInlay.Proofs.Trace

namespace WatInlay

/-! ### Coverage -/

/-- What became of a block that stands in a source, when the blocks `called`
were put to the compiler in these exchanges. -/
inductive Accounted (g : Literal.Grammar) (source : Text) (called : List Block)
    (exchanges : List Exchange) (b : Block) : Prop where
  /-- It was put to the compiler, and nothing else that starts there was. -/
  | called (n : Nat) (at_n : called[n]? = some b)
      (once : ∀ m c, called[m]? = some c → c.start = b.start → m = n)
  /-- It lies inside another block that was. -/
  | inBlock (c : Block) (mem : c ∈ called) (start_lt : c.start < b.start) (lt_stop : b.start < c.stop)
  /-- It lies inside the literal statement behind a block that compiled. -/
  | inLiteral (n : Nat) (c : Block) (e : Exchange) (module : Bytes) (s : Literal.Statement)
      (at_n : called[n]? = some c) (exchange : exchanges[n]? = some e)
      (success : e.answer = .ok (.success module)) (statement : g.match? source c.stop = some s)
      (stop_le : c.stop ≤ b.start) (lt_stop : b.start < s.stop)

/-- The blocks `called` were put to the compiler in these exchanges, one after
another, and all blocks that start at `start` or later are accounted for. -/
structure Coverage (g : Literal.Grammar) (source : Text) (start : Nat) (called : List Block)
    (exchanges : List Exchange) : Prop where
  asked : exchanges.map (fun e => (e.body, e.options)) = called.map fun b => (b.body, b.options)
  standing : ∀ b ∈ called, b.StandsIn source
  start_le : ∀ b ∈ called, start ≤ b.start
  ordered : called.Pairwise fun a b => a.start < b.start ∧ a.stop ≤ b.start
  accounted : ∀ b : Block, b.StandsIn source → start ≤ b.start →
    Accounted g source called exchanges b

namespace Accounted

variable {g : Literal.Grammar} {source : Text} {called : List Block} {exchanges : List Exchange}
  {b c : Block} {e : Exchange}

/-- A block that is accounted for stays so when an earlier block is put to the
compiler as well. -/
theorem cons (h : Accounted g source called exchanges b) (hlt : c.start < b.start) :
    Accounted g source (c :: called) (e :: exchanges) b := by
  cases h with
  | called n at_n once =>
    refine .called (n + 1) at_n ?_
    intro m c' hm hstart
    cases m with
    | zero =>
      cases hm
      omega
    | succ m => rw [once m c' hm hstart]
  | inBlock c' mem start_lt lt_stop =>
    exact .inBlock c' (List.mem_cons_of_mem _ mem) start_lt lt_stop
  | inLiteral n c' e' module s at_n exchange success statement stop_le lt_stop =>
    exact .inLiteral (n + 1) c' e' module s at_n exchange success statement stop_le lt_stop

end Accounted

namespace Coverage

variable {g : Literal.Grammar} {source : Text} {start stop : Nat} {called : List Block}
  {exchanges : List Exchange}

theorem nil (h : ∀ b : Block, b.StandsIn source → b.start < start) :
    Coverage g source start [] [] where
  asked := rfl
  standing := by simp
  start_le := by simp
  ordered := .nil
  accounted b hb hle := absurd (h b hb) (Nat.not_lt.mpr hle)

/-- The first block of a text is put to the compiler before all others, and
nothing is skipped behind it but a literal statement. -/
theorem cons {before t : Text} {k : Block.Cut} {answer : Except ToolError Outcome}
    (hcut : Block.cut? t = some k)
    (hstop : (k.block (Text.size before)).stop = stop ∨
      ∃ module s, answer = .ok (.success module) ∧
        g.match? (before ++ t) (k.block (Text.size before)).stop = some s ∧ s.stop = stop)
    (h : Coverage g (before ++ t) stop called exchanges) :
    Coverage g (before ++ t) (Text.size before) (k.block (Text.size before) :: called)
      (⟨k.body, k.options, answer⟩ :: exchanges) := by
  have hlt := Block.start_lt_stop k (Text.size before)
  have hle : (k.block (Text.size before)).stop ≤ stop := by
    rcases hstop with rfl | ⟨module, s, -, hmatch, rfl⟩
    · exact Nat.le_refl _
    · obtain ⟨h1, h2, h3, -⟩ := Literal.Grammar.match?_bounds hmatch
      omega
  obtain ⟨hb, hstart⟩ := Block.standsIn_append_iff.mpr ⟨k, Block.cuts_of_cut?_eq_some hcut, rfl⟩
  refine ⟨?_, ?_, ?_, ?_, ?_⟩
  · rw [List.map_cons, List.map_cons, h.asked]
    rfl
  · intro c hc
    rcases List.mem_cons.mp hc with rfl | hc
    · exact hb
    · exact h.standing c hc
  · intro c hc
    rcases List.mem_cons.mp hc with rfl | hc
    · exact hstart
    · have := h.start_le c hc
      omega
  · refine List.pairwise_cons.mpr ⟨?_, h.ordered⟩
    intro c hc
    have := h.start_le c hc
    omega
  · intro c hc hc'
    obtain ⟨j, hj, rfl⟩ := Block.standsIn_append_iff.mp ⟨hc, hc'⟩
    rcases Block.eq_or_start_lt_of_cut? hcut hj (Text.size before) with hsame | hbehind
    · refine .called 0 (congrArg some hsame.symm) ?_
      intro m c' hm hstart'
      cases m with
      | zero => rfl
      | succ m =>
        have := h.start_le c' (List.mem_of_getElem? hm)
        rw [hsame] at hstart'
        omega
    · rcases Nat.lt_or_ge (j.block (Text.size before)).start (k.block (Text.size before)).stop with
        hinside | houtside
      · exact .inBlock _ List.mem_cons_self hbehind hinside
      · rcases Nat.lt_or_ge (j.block (Text.size before)).start stop with hskipped | hlater
        · rcases hstop with rfl | ⟨module, s, hsuccess, hmatch, rfl⟩
          · omega
          · exact .inLiteral 0 _ _ module s rfl rfl hsuccess hmatch houtside hskipped
        · exact (h.accounted _ hc hlater).cons hbehind

end Coverage

/-! ### Traces -/

/-- A trace covers the text it is about, whatever stands before it. -/
theorem Trace.coverage {path : Path} {d : Dialect} {unit t : Text} {lines : Nat}
    {exchanges : List Exchange} {p : Processed} (h : Trace path d unit lines t exchanges p)
    (before : Text) :
    ∃ called, Coverage d.literal (before ++ t) (Text.size before) called exchanges := by
  induction h generalizing before with
  | done hcut =>
    refine ⟨[], .nil fun b hb => Nat.lt_of_not_le fun hle => ?_⟩
    obtain ⟨j, hj, -⟩ := Block.standsIn_append_iff.mp ⟨hb, hle⟩
    exact Block.cut?_eq_none_iff.mp hcut j hj
  | @failed lines t k complaints exchanges p hcut _ ih =>
    obtain ⟨called, hrest⟩ := ih (before ++ k.upTo)
    rw [List.append_assoc, ← (Block.cuts_of_cut?_eq_some hcut).eq] at hrest
    exact ⟨_, hrest.cons hcut (.inl (Text.size_append _ _).symm)⟩
  | @synced lines t k module amended exchanges p hcut hamended _ ih =>
    subst hamended
    cases hread : d.literal.read? k.rest with
    | none =>
      obtain ⟨called, hrest⟩ := ih (before ++ k.upTo)
      rw [Literal.Grammar.rest_amend_of_none hread, List.append_assoc,
        ← (Block.cuts_of_cut?_eq_some hcut).eq] at hrest
      exact ⟨_, hrest.cons hcut (.inl (Text.size_append _ _).symm)⟩
    | some old =>
      -- on the source the statement that stood there is skipped, not the new one
      obtain ⟨called, hrest⟩ := ih (before ++ k.upTo ++ old.statement d.literal)
      have hsource : before ++ t = before ++ k.upTo ++ k.rest := by
        rw [List.append_assoc, ← (Block.cuts_of_cut?_eq_some hcut).eq]
      have hmatch := Literal.Grammar.match?_append d.literal (before ++ k.upTo) k.rest
      rw [hread, ← hsource, Text.size_append] at hmatch
      rw [Literal.Grammar.rest_amend_of_some hread, List.append_assoc (before ++ k.upTo),
        ← Literal.Grammar.eq_append_of_read? hread, ← hsource] at hrest
      refine ⟨_, hrest.cons hcut (.inr ⟨module, _, rfl, hmatch, ?_⟩)⟩
      simp [Literal.Reading.place, Nat.add_assoc]

/-! ### Passes -/

/-- A pass that ends well puts blocks of the source to the compiler, in order
and without overlap, and every block of the source is accounted for. -/
theorem process_coverage {σ : Type} {path : Path} {d : Dialect} {compiler : Compiler σ}
    {source : Text} {state : σ} {p : Processed}
    (hok : (process path d compiler source state).outcome = .ok p) :
    ∃ called, Coverage d.literal source 0 called
      (process path d compiler source state).exchanges := by
  rw [process_eq_rewriteFrom] at hok ⊢
  exact (trace_of_outcome_eq_ok p hok).coverage []

/-- A failed block, an updated one and one with a new statement. -/
theorem process_coverage_sample :
    ∃ p, (process "s.rs".toList .rust (.scripted "u".toList) sampleSource sampleAnswers).outcome =
        .ok p ∧
      ∃ called, Coverage Dialect.rust.literal sampleSource 0 called
        (process "s.rs".toList .rust (.scripted "u".toList) sampleSource
          sampleAnswers).exchanges := by
  obtain ⟨p, hok, -⟩ := process_sample
  exact ⟨p, hok, process_coverage hok⟩

end WatInlay
