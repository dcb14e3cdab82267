/-
Compilers that answer alike.

Compilers answer alike from related states when they give the same answers to
the same questions and their next states are related again
(`Compiler.Alike`). That is what one question keeps; a pass puts one question
after another, and so it comes out the same by either of them, with related
states at its end (`Compiler.Alike.processFrom`). A compiler that is compared
with itself in equal states keeps an invariant of its states
(`process_invariant`).
-/

import WatInlay.Proofs.Rewriter

namespace WatInlay

section

variable {σ τ : Type}

/-! ### Relations -/

/-- From states related by `R`, both compilers answer all questions alike, and
their states stay related. -/
structure Compiler.Alike (compiler : Compiler σ) (compiler' : Compiler τ) (R : σ → τ → Prop) :
    Prop where
  unitName : compiler.unitName = compiler'.unitName
  answer : ∀ {s t}, R s t → ∀ body options,
    (compiler.compile s body options).1 = (compiler'.compile t body options).1
  next : ∀ {s t}, R s t → ∀ body options,
    R (compiler.compile s body options).2 (compiler'.compile t body options).2

/-- The passes differ at most in the states they end in, and these are related. -/
structure Pass.Alike (R : σ → τ → Prop) (p : Pass σ) (q : Pass τ) : Prop where
  outcome : p.outcome = q.outcome
  exchanges : p.exchanges = q.exchanges
  printed : p.printed = q.printed
  state : R p.state q.state

/-- Passes that are alike stay so when one more block was dealt with before. -/
theorem Pass.Alike.before {R : σ → τ → Prop} {p : Pass σ} {q : Pass τ} (h : p.Alike R q)
    (exchange : Exchange) (report : BlockReport) (printed : Text) :
    (p.before exchange report printed).Alike R (q.before exchange report printed) where
  outcome := congrArg (Except.map _) h.outcome
  exchanges := congrArg (List.cons exchange) h.exchanges
  printed := congrArg (printed ++ ·) h.printed
  state := h.state

/-! ### Passes -/

variable {path : Path} {d : Dialect} {compiler : Compiler σ} {compiler' : Compiler τ}
  {R E : σ → τ → Prop} {buffer : Buffer} {pos : Nat} {s : σ} {t : τ}

namespace Compiler.Alike

/-- The other compiler's answer, with its state after that. -/
theorem compile_eq (h : compiler.Alike compiler' R) (hst : R s t) {body : Text}
    {options : List Text} {answer : Except ToolError Outcome} {s' : σ}
    (hcompile : compiler.compile s body options = (answer, s')) :
    ∃ t', compiler'.compile t body options = (answer, t') ∧ R s' t' := by
  have hanswer := h.answer hst body options
  have hnext := h.next hst body options
  rw [hcompile] at hanswer hnext
  exact ⟨_, Prod.ext hanswer.symm rfl, hnext⟩

/-- Compilers that answer alike make passes that are alike. -/
theorem processFrom (h : compiler.Alike compiler' R) (hst : R s t) :
    (WatInlay.processFrom path d compiler buffer pos s).Alike R
      (WatInlay.processFrom path d compiler' buffer pos t) := by
  fun_induction WatInlay.processFrom path d compiler buffer pos s generalizing t with
  | case1 buffer pos s hfind =>
    rw [processFrom_of_none hfind]
    exact ⟨rfl, rfl, rfl, hst⟩
  | case2 buffer pos s b hfind s' e hcompile =>
    obtain ⟨t', hcompile', hst'⟩ := h.compile_eq hst hcompile
    rw [processFrom_of_error hfind hcompile']
    exact ⟨rfl, rfl, rfl, hst'⟩
  | case3 buffer pos s b hfind line s' complaints diagnostics hcompile exchange =>
    rename_i ih
    obtain ⟨t', hcompile', hst'⟩ := h.compile_eq hst hcompile
    rw [processFrom_of_failure hfind hcompile', ← h.unitName]
    exact (ih hst').before _ _ _
  | case4 buffer pos s b hfind line s' module synced hcompile exchange =>
    rename_i ih
    obtain ⟨t', hcompile', hst'⟩ := h.compile_eq hst hcompile
    rw [processFrom_of_success hfind hcompile']
    exact (ih hst').before _ _ _

theorem process (h : compiler.Alike compiler' R) (path : Path) (d : Dialect) (source : Text)
    (hst : R s t) :
    (WatInlay.process path d compiler source s).Alike R
      (WatInlay.process path d compiler' source t) :=
  h.processFrom hst

/-- A pass that changes its source has had an answer. Where every answer leads
to states that are related more closely, so are the states it ends in. -/
theorem process_of_modified (h : compiler.Alike compiler' R)
    (hclose : compiler.Alike compiler' E)
    (hanswered : ∀ body options outcome, (compiler.compile s body options).1 = .ok outcome →
      E (compiler.compile s body options).2 (compiler'.compile t body options).2)
    (hst : R s t) {source : Text} {p : Processed}
    (hok : (WatInlay.process path d compiler source s).outcome = .ok p)
    (hmodified : p.modified = true) :
    E (WatInlay.process path d compiler source s).state
      (WatInlay.process path d compiler' source t).state := by
  unfold WatInlay.process at hok ⊢
  cases hfind : Block.find? source 0 with
  | none =>
    rw [processFrom_of_none hfind] at hok
    cases hok
    cases hmodified
  | some b =>
    obtain ⟨answer, s', hcompile⟩ : ∃ answer s', compiler.compile s b.body b.options =
        (answer, s') := ⟨_, _, rfl⟩
    obtain ⟨t', hcompile', -⟩ := h.compile_eq hst hcompile
    cases answer with
    | error e =>
      rw [processFrom_of_error hfind hcompile] at hok
      cases hok
    | ok outcome =>
      have hfirst := hanswered b.body b.options outcome (by rw [hcompile])
      rw [hcompile, hcompile'] at hfirst
      cases outcome with
      | failure complaints =>
        rw [processFrom_of_failure hfind hcompile, processFrom_of_failure hfind hcompile']
        exact (hclose.processFrom hfirst).state
      | success module =>
        rw [processFrom_of_success hfind hcompile, processFrom_of_success hfind hcompile']
        exact (hclose.processFrom hfirst).state

end Compiler.Alike

/-- What every question keeps of a compiler's state, a pass keeps. -/
theorem process_invariant {I : σ → Prop}
    (hkeeps : ∀ s, I s → ∀ body options, I (compiler.compile s body options).2) (hs : I s)
    (source : Text) : I (process path d compiler source s).state := by
  have h : compiler.Alike compiler fun s t => s = t ∧ I s :=
    { unitName := rfl
      answer := fun hst body options => by rw [hst.1]
      next := fun hst body options => ⟨by rw [hst.1], hkeeps _ hst.2 body options⟩ }
  exact (h.process path d source ⟨rfl, hs⟩).state.2

end

end WatInlay
