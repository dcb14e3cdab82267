/-
The flag of a pass is exact.

A pass says that it changed its source when it put a statement or a payload
somewhere. Edits that grow the text and edits that shrink it could in principle
cancel out; they never do, since the first of them shows already: where it
stands the source has no statement, or one for other digits, and the text that
is left has one for the module (`Trace.text_eq_iff`).
-/

import WatInlay.Proofs.Delimited
import WatInlay.Proofs.Trace

namespace WatInlay

/-! ### Edits among the reports -/

/-- The block was given a statement, or the payload of its statement was
replaced. -/
def Status.IsEdit (s : Status) : Prop :=
  s = .inserted ∨ s = .updated

theorem Status.isEdit_ofChange_iff (c : Change) : (ofChange c).IsEdit ↔ c ≠ .unchanged := by
  cases c <;> simp [IsEdit, ofChange]

theorem Status.not_isEdit_failed (diagnostics : Text) : ¬ (failed diagnostics).IsEdit := by
  simp [IsEdit]

theorem Status.isEdit_of_name {s : Status} (h : s.name = "updated".toList) : s.IsEdit := by
  cases s with
  | updated => exact .inr rfl
  | inserted => exact .inl rfl
  | unchanged => exact absurd h (by decide)
  | failed diagnostics =>
    have hname : "failed".toList = "updated".toList := h
    exact absurd hname (by decide)

/-- The counts show an edit exactly when some report is on one. -/
theorem Counts.edits_tally_pos_iff (blocks : List BlockReport) :
    0 < (tally blocks).inserted + (tally blocks).updated ↔ ∃ r ∈ blocks, r.status.IsEdit := by
  constructor
  · intro h
    rcases Nat.add_pos_iff_pos_or_pos.mp h with h | h
    · obtain ⟨r, hr, hs⟩ := List.countP_pos_iff.mp h
      exact ⟨r, hr, .inl (of_decide_eq_true hs)⟩
    · obtain ⟨r, hr, hs⟩ := List.countP_pos_iff.mp h
      exact ⟨r, hr, .inr (of_decide_eq_true hs)⟩
  · rintro ⟨r, hr, hs | hs⟩
    · exact Nat.add_pos_left (List.countP_pos_iff.mpr ⟨r, hr, decide_eq_true hs⟩) _
    · exact Nat.add_pos_right _ (List.countP_pos_iff.mpr ⟨r, hr, decide_eq_true hs⟩)

/-! ### Traces -/

namespace Trace

variable {path : Path} {d : Dialect} {unit : Text} {lines : Nat} {t : Text}
  {exchanges : List Exchange} {p : Processed}

/-- The flag is set exactly when some report is on an edit, under any grammar. -/
theorem modified_iff (h : Trace path d unit lines t exchanges p) :
    p.modified = true ↔ ∃ r ∈ p.blocks, r.status.IsEdit := by
  induction h with
  | done => simp
  | @failed lines t k complaints exchanges p hcut _ ih =>
    simp only [Processed.behind, Bool.false_or, List.mem_cons, exists_eq_or_imp, ih,
      Status.not_isEdit_failed, false_or]
  | @synced lines t k module amended exchanges p hcut hamended _ ih =>
    simp only [Processed.behind, Bool.or_eq_true, bne_iff_ne, List.mem_cons, exists_eq_or_imp, ih,
      Status.isEdit_ofChange_iff]

/-- The text is as it was exactly when the flag is not set. The induction takes
equal beginnings off both texts, up to the first edit. -/
theorem text_eq_iff (hd : d.literal.SelfDelimiting) (h : Trace path d unit lines t exchanges p) :
    p.text = t ↔ p.modified = false := by
  induction h with
  | done => simp
  | @failed lines t k complaints exchanges p hcut _ ih =>
    rw [(Block.cuts_of_cut?_eq_some hcut).eq]
    simp only [Processed.behind, Bool.false_or, List.append_cancel_left_eq, ih]
  | @synced lines t k module amended exchanges p hcut hamended _ ih =>
    rw [(Block.cuts_of_cut?_eq_some hcut).eq]
    simp only [Processed.behind, List.append_assoc, List.append_cancel_left_eq,
      Bool.or_eq_false_iff, bne_eq_false_iff_eq, ← ih]
    subst hamended
    constructor
    · intro htext
      have hkept := hd.change_eq_unchanged (Hex.semicolon_not_mem_encode module)
        (Hex.normalize_encode module) htext.symm
      have hrest := Literal.Grammar.eq_append_of_change_eq_unchanged hkept
      exact ⟨hkept, List.append_cancel_left (htext.trans hrest)⟩
    · rintro ⟨hkept, hrest⟩
      rw [hrest]
      exact (Literal.Grammar.eq_append_of_change_eq_unchanged hkept).symm

end Trace

/-! ### Passes -/

/-- The flag of a pass that ends well is set exactly when the text is not that
of the source, and exactly when the counts show a statement that was inserted
or updated. -/
theorem process_modified_exact {σ : Type} {path : Path} {d : Dialect} (hd : d ∈ Dialect.all)
    {compiler : Compiler σ} {source : Text} {state : σ} {p : Processed}
    (hok : (process path d compiler source state).outcome = .ok p) :
    (p.modified = true ↔ p.text ≠ source) ∧
      (p.modified = true ↔
        0 < (Counts.tally p.blocks).inserted + (Counts.tally p.blocks).updated) := by
  rw [process_eq_rewriteFrom] at hok
  have htrace := trace_of_outcome_eq_ok p hok
  refine ⟨?_, ?_⟩
  · have htext := htrace.text_eq_iff (Literal.selfDelimiting_of_mem_all hd)
    rw [ne_eq, htext, Bool.not_eq_false]
  · rw [Counts.edits_tally_pos_iff]
    exact htrace.modified_iff

/-- A failed block, an updated one and one with a new statement: the text is
not that of the source. -/
theorem process_modified_exact_sample :
    ∃ p, (process "s.rs".toList .rust (.scripted "u".toList) sampleSource sampleAnswers).outcome =
        .ok p ∧
      (p.modified = true ↔ p.text ≠ sampleSource) ∧
      0 < (Counts.tally p.blocks).inserted + (Counts.tally p.blocks).updated ∧
      p.text ≠ sampleSource := by
  obtain ⟨p, hok, hstatus⟩ := process_sample
  obtain ⟨htext, hcounts⟩ := process_modified_exact (by decide) hok
  have hupdated : "updated".toList ∈ p.blocks.map (·.status.name) := by
    rw [hstatus]
    decide
  obtain ⟨r, hr, hname⟩ := List.mem_map.mp hupdated
  have hpos := (Counts.edits_tally_pos_iff p.blocks).mpr ⟨r, hr, Status.isEdit_of_name hname⟩
  exact ⟨p, hok, htext, hpos, htext.mp (hcounts.mpr hpos)⟩

end WatInlay
