/-
What an update overwrites.

A payload may be written in several string literals, one behind the other. An
update takes all that stands between the first quote of the statement and its
last one before the first semicolon (`Buffer.sync_replaces`), and leaves the
rest of the statement alone. What it takes is a row of string literals with
other text between them, and not only white space: any text without a quote or a
semicolon may stand there (`Buffer.sync_replaces_between`).
-/

import WatInlay.Proofs.Spelling
import WatInlay.Proofs.Sync

namespace WatInlay

/-! ### Rows of string literals -/

namespace Text

/-- A text with a quote before and a quote behind it. -/
def inQuotes (t : Text) : Text :=
  '"' :: (t ++ ['"'])

/-- `t` is a row of one or more string literals, which hold no quotes inside,
and `gaps` are the texts between one literal and the next. -/
inductive Literals : List Text → Text → Prop where
  | last {inner : Text} : '"' ∉ inner → Literals [] (inQuotes inner)
  | more {inner gap : Text} {gaps : List Text} {t : Text} :
      '"' ∉ inner → '"' ∉ gap → Literals gaps t →
        Literals (gap :: gaps) (inQuotes inner ++ (gap ++ t))

/-- Only white space stands between the literals of a row. -/
def IsBlankRow (t : Text) : Prop :=
  ∃ gaps, Literals gaps t ∧ ∀ gap ∈ gaps, ∀ c ∈ gap, isBlank c = true

/-- A text is cut at its first `c` in one way. -/
theorem append_cons_inj {c : Char} {l l' r r' : Text} (hl : c ∉ l) (hl' : c ∉ l')
    (h : l ++ c :: r = l' ++ c :: r') : l = l' ∧ r = r' := by
  have hfirst : l = l' := by
    rw [← takeWhile_ne_append_cons hl r, h, takeWhile_ne_append_cons hl']
  subst hfirst
  exact ⟨rfl, List.cons_inj_right c |>.mp (List.append_cancel_left h)⟩

namespace Literals

variable {gaps gaps' : List Text} {t : Text}

theorem exists_eq_cons (h : Literals gaps t) : ∃ r, t = '"' :: r := by
  cases h with
  | last => exact ⟨_, rfl⟩
  | more => exact ⟨_, rfl⟩

/-- There is one way to see a text as a row. -/
theorem gaps_unique (h : Literals gaps t) (h' : Literals gaps' t) : gaps = gaps' := by
  induction h generalizing gaps' with
  | @last inner hinner =>
    generalize ht : inQuotes inner = t at h'
    cases h' with
    | last => rfl
    | @more inner' gap' gaps' t' hinner' _ hrest' =>
      -- the quote that ends the one literal would be followed by another one
      obtain ⟨r, rfl⟩ := hrest'.exists_eq_cons
      simp only [inQuotes, List.cons_append, List.append_assoc, List.nil_append, List.cons.injEq,
        true_and] at ht
      obtain ⟨-, hnil⟩ := append_cons_inj hinner hinner' ht
      simp at hnil
  | @more inner gap gaps t hinner hgap hrest ih =>
    generalize hs : inQuotes inner ++ (gap ++ t) = s at h'
    cases h' with
    | @last inner' hinner' =>
      obtain ⟨r, rfl⟩ := hrest.exists_eq_cons
      simp only [inQuotes, List.cons_append, List.append_assoc, List.nil_append, List.cons.injEq,
        true_and] at hs
      obtain ⟨-, hnil⟩ := append_cons_inj hinner hinner' hs
      simp at hnil
    | @more inner' gap' gaps' t' hinner' hgap' hrest' =>
      obtain ⟨r, rfl⟩ := hrest.exists_eq_cons
      obtain ⟨r', rfl⟩ := hrest'.exists_eq_cons
      simp only [inQuotes, List.cons_append, List.append_assoc, List.nil_append, List.cons.injEq,
        true_and] at hs
      obtain ⟨-, hbehind⟩ := append_cons_inj hinner hinner' hs
      obtain ⟨rfl, rfl⟩ := append_cons_inj hgap hgap' hbehind
      rw [ih hrest']

end Literals

/-- What stands between two quotes, as a row of string literals: with an even
number of quotes inside the two belong to the first literal and to the last one;
with an odd number the second quote stands alone behind the row. -/
structure QuotedRow (t : Text) : Prop where
  even : t.count '"' % 2 = 0 → ∃ gaps, Literals gaps (inQuotes t)
  odd : t.count '"' % 2 = 1 → ∃ gaps row gap,
    Literals gaps row ∧ '"' ∉ gap ∧ inQuotes t = row ++ gap ++ ['"']

namespace QuotedRow

variable {inner gap t : Text}

/-- Without a quote inside there is one literal. -/
theorem of_not_mem (h : '"' ∉ inner) : QuotedRow inner where
  even := fun _ => ⟨_, .last h⟩
  odd := by
    intro hodd
    rw [List.count_eq_zero.mpr h] at hodd
    cases hodd

/-- A single quote inside ends the one literal. -/
theorem of_one (hinner : '"' ∉ inner) (hgap : '"' ∉ gap) : QuotedRow (inner ++ '"' :: gap) where
  even := by
    intro heven
    simp [List.count_eq_zero.mpr hinner, List.count_eq_zero.mpr hgap] at heven
  odd := fun _ => ⟨_, _, gap, .last hinner, hgap, by simp [inQuotes]⟩

/-- Two more quotes make one more literal. -/
theorem more (hinner : '"' ∉ inner) (hgap : '"' ∉ gap) (h : QuotedRow t) :
    QuotedRow (inner ++ '"' :: (gap ++ '"' :: t)) := by
  have hcount : (inner ++ '"' :: (gap ++ '"' :: t)).count '"' = t.count '"' + 2 := by
    simp [List.count_eq_zero.mpr hinner, List.count_eq_zero.mpr hgap]
  have hquotes : inQuotes (inner ++ '"' :: (gap ++ '"' :: t)) =
      inQuotes inner ++ (gap ++ inQuotes t) := by simp [inQuotes]
  constructor
  · intro heven
    obtain ⟨gaps, hliterals⟩ := h.even (by omega)
    rw [hquotes]
    exact ⟨_, .more hinner hgap hliterals⟩
  · intro hodd
    obtain ⟨gaps, row, lastGap, hliterals, hlast, ht⟩ := h.odd (by omega)
    refine ⟨_, _, lastGap, .more hinner hgap hliterals, hlast, ?_⟩
    rw [hquotes, ht]
    simp

end QuotedRow

/-- Whatever stands between two quotes is such a row. -/
theorem quotedRow (t : Text) : QuotedRow t := by
  -- two quotes at a time: the end of a literal and the start of the next one
  induction hn : t.length using Nat.strongRecOn generalizing t with
  | _ n ih =>
    by_cases hquote : '"' ∈ t
    · obtain ⟨inner, r, rfl, hinner⟩ := List.eq_append_cons_of_mem hquote
      by_cases hsecond : '"' ∈ r
      · obtain ⟨gap, u, rfl, hgap⟩ := List.eq_append_cons_of_mem hsecond
        have hshorter : u.length < n := by
          rw [← hn]
          simp
          omega
        exact .more hinner hgap (ih _ hshorter u rfl)
      · exact .of_one hinner hsecond
    · exact .of_not_mem hquote

end Text

/-! ### The quotes of a statement -/

namespace Literal

/-- The word that an element stands for, if it is one. -/
def Step.letters : Step → Text
  | .word w => w
  | .maybe w => w
  | _ => []

theorem takeAll?_append_eq_some_iff {steps steps' : List Step} {t lead r : Text} :
    takeAll? (steps ++ steps') t = some (lead, r) ↔
      ∃ a b u, takeAll? steps t = some (a, u) ∧ takeAll? steps' u = some (b, r) ∧
        lead = a ++ b := by
  induction steps generalizing t lead with
  | nil => simp [takeAll?]
  | cons s steps ih =>
    rw [List.cons_append, takeAll?_cons_eq_some_iff]
    constructor
    · rintro ⟨a, bc, u, ha, hbc, rfl⟩
      obtain ⟨b, c, v, hb, hc, rfl⟩ := ih.mp hbc
      exact ⟨a ++ b, c, v, takeAll?_cons_eq_some_iff.mpr ⟨a, b, u, ha, hb, rfl⟩, hc,
        (List.append_assoc a b c).symm⟩
    · rintro ⟨ab, c, v, hab, hc, rfl⟩
      obtain ⟨a, b, u, ha, hb, rfl⟩ := takeAll?_cons_eq_some_iff.mp hab
      exact ⟨a, b ++ c, u, ha, ih.mpr ⟨b, c, v, hb, hc, rfl⟩, List.append_assoc a b c⟩

/-- A character that is neither white space nor part of an identifier gets into
a lead by the words only. -/
theorem not_mem_of_takeAll? {c : Char} (hblank : Text.isBlank c = false)
    (hword : Text.isWordChar c = false) {steps : List Step} (hsteps : ∀ s ∈ steps, c ∉ s.letters)
    {t lead r : Text} (h : takeAll? steps t = some (lead, r)) : c ∉ lead := by
  induction steps generalizing t lead with
  | nil =>
    cases h
    exact List.not_mem_nil
  | cons s steps ih =>
    obtain ⟨a, b, u, ha, hb, rfl⟩ := takeAll?_cons_eq_some_iff.mp h
    have hrest := ih (fun s hs => hsteps s (List.mem_cons_of_mem _ hs)) hb
    have hhere : c ∉ a := by
      have hletters := hsteps s List.mem_cons_self
      intro hc
      cases s with
      | blanks =>
        rw [Step.spells_of_take? ha c hc] at hblank
        cases hblank
      | word w =>
        rw [Step.spells_of_take? ha] at hc
        exact hletters hc
      | maybe w =>
        rcases Step.spells_of_take? ha with rfl | rfl
        · cases hc
        · exact hletters hc
      | identifier =>
        rw [(Step.spells_of_take? ha).2 c hc] at hword
        cases hword
    intro hc
    rcases List.mem_append.mp hc with hc | hc
    · exact hhere hc
    · exact hrest hc

/-- The lead ends with the quote that opens the payload and the tail begins with
the one that closes it. There is no other quote, and the semicolon stands at the
end of the tail only. -/
structure Grammar.QuotesPayload (g : Grammar) (steps : List Step) (closing : Text) : Prop where
  lead : g.lead = steps ++ [.word ['"']]
  tail : g.tail = '"' :: (closing ++ [';'])
  steps_plain : ∀ s ∈ steps, '"' ∉ s.letters ∧ ';' ∉ s.letters
  closing_plain : '"' ∉ closing ∧ ';' ∉ closing

theorem quotesPayload_cpp :
    Dialect.cpp.literal.QuotesPayload (Dialect.cpp.literal.lead.take 9) [')'] where
  lead := by decide
  tail := by decide
  steps_plain := by decide
  closing_plain := by decide

theorem quotesPayload_rust :
    Dialect.rust.literal.QuotesPayload (Dialect.rust.literal.lead.take 7) ").unwrap()".toList where
  lead := by decide
  tail := by decide
  steps_plain := by decide
  closing_plain := by decide

/-- The grammars of all dialects put the payload between quotes. -/
theorem exists_quotesPayload_of_mem_all {d : Dialect} (hd : d ∈ Dialect.all) :
    ∃ steps closing, d.literal.QuotesPayload steps closing := by
  simp only [Dialect.all, List.mem_cons, List.not_mem_nil, or_false] at hd
  rcases hd with rfl | rfl
  · exact ⟨_, _, quotesPayload_cpp⟩
  · exact ⟨_, _, quotesPayload_rust⟩

/-- What stands before the payload is a text without quotes or semicolons, and
the opening quote. -/
theorem Grammar.QuotesPayload.exists_lead_eq {g : Grammar} {steps : List Step} {closing : Text}
    (hg : g.QuotesPayload steps closing) {t lead r : Text}
    (h : takeAll? g.lead t = some (lead, r)) :
    ∃ opening, lead = opening ++ ['"'] ∧ '"' ∉ opening ∧ ';' ∉ opening := by
  rw [hg.lead] at h
  obtain ⟨opening, b, u, hopening, hb, rfl⟩ := takeAll?_append_eq_some_iff.mp h
  obtain ⟨quote, c, v, hquote, hc, rfl⟩ := takeAll?_cons_eq_some_iff.mp hb
  cases hc
  rw [Step.spells_of_take? hquote, List.append_nil]
  refine ⟨opening, rfl, ?_, ?_⟩
  · exact not_mem_of_takeAll? (by decide) (by decide) (fun s hs => (hg.steps_plain s hs).1) hopening
  · exact not_mem_of_takeAll? (by decide) (by decide) (fun s hs => (hg.steps_plain s hs).2) hopening

/-- An updated statement is the one that was read, with another payload. -/
theorem Grammar.exists_of_change_eq_updated {g : Grammar} {hex t : Text}
    (h : (g.amend hex t).change = .updated) :
    ∃ k, g.read? t = some k ∧
      g.amend hex t = ⟨{ k with payload := hex }.statement g, .updated, k.rest⟩ := by
  unfold amend at h ⊢
  cases hread : g.read? t with
  | none =>
    rw [hread] at h
    cases h
  | some k =>
    rw [hread] at h
    dsimp only at h ⊢
    split at h
    · cases h
    · rename_i hpayload
      exact ⟨k, rfl, if_neg hpayload⟩

end Literal

/-! ### What an update replaces -/

/-- The statement at `pos`, which ends at its first semicolon, has `old` between
its first quote and its last one in `b`; `b'` has `new` there and is else the
same. -/
structure Buffer.Requotes (g : Literal.Grammar) (pos : Nat) (old new : Text) (b b' : Buffer) :
    Prop where
  payload : ∃ s, g.match? b.text pos = some s ∧ s.payload b.text = old
  frame : ∃ before opening closing rest,
    b.text = before ++ (opening ++ Text.inQuotes old ++ closing ++ [';']) ++ rest ∧
    b'.text = before ++ (opening ++ Text.inQuotes new ++ closing ++ [';']) ++ rest ∧
    Text.size before = pos ∧ '"' ∉ opening ++ closing ∧ ';' ∉ opening ++ old ++ closing

/-- In each language, an update replaces what stands between the first quote of
the statement and its last one, and nothing else; that is a row of string
literals. -/
theorem Buffer.sync_replaces {d : Dialect} (hd : d ∈ Dialect.all) {b : Buffer} {pos : Nat}
    (hpos : b.text.IsBoundary pos) {module : Bytes}
    (h : (b.sync pos d.literal (Hex.encode module)).2.change = .updated) :
    ∃ old, Requotes d.literal pos old (Hex.encode module) b
      (b.sync pos d.literal (Hex.encode module)).1 ∧ old.QuotedRow := by
  obtain ⟨text, modified⟩ := b
  obtain ⟨p, r, rfl, rfl⟩ := Text.isBoundary_iff.mp hpos
  obtain ⟨steps, closing, hg⟩ := Literal.exists_quotesPayload_of_mem_all hd
  rw [sync_append] at h ⊢
  obtain ⟨k, hread, hamend⟩ := Literal.Grammar.exists_of_change_eq_updated h
  have hlead := (Literal.Grammar.read?_eq_some_iff.mp hread).1
  obtain ⟨opening, hopening, hquote, hsemi⟩ := hg.exists_lead_eq hlead
  have hpayload := (Literal.selfDelimiting_of_mem_all hd).semicolon_not_mem_payload hread
  have hr := Literal.Grammar.eq_append_of_read? hread
  refine ⟨k.payload, ⟨⟨k.place d.literal (Text.size p), ?_, Literal.Reading.payload_place hread p⟩,
    p, opening, closing, k.rest, ?_, ?_, rfl, ?_, ?_⟩, k.payload.quotedRow⟩
  · rw [Literal.Grammar.match?_append, hread]
    rfl
  · rw [hr, Literal.Reading.statement, hopening, hg.tail]
    simp [Text.inQuotes]
  · rw [hamend, Literal.Reading.statement, hopening, hg.tail]
    simp [Text.inQuotes]
  · simp [hquote, hg.closing_plain.1]
  · simp [hsemi, hpayload, hg.closing_plain.2]

/-- Two declarations in one statement, each with a string literal of its own. -/
def Buffer.twoCalls : Buffer :=
  ⟨"const auto wasm = from_hex(\"00\"), more = from_hex(\"11\");".toList, false⟩

theorem Buffer.sync_replaces_sample :
    Dialect.cpp ∈ Dialect.all ∧ twoCalls.text.IsBoundary 0 ∧
      (twoCalls.sync 0 Dialect.cpp.literal (Hex.encode [0xde, 0xad])).2.change = .updated ∧
      Requotes Dialect.cpp.literal 0 "00\"), more = from_hex(\"11".toList (Hex.encode [0xde, 0xad])
        twoCalls (twoCalls.sync 0 Dialect.cpp.literal (Hex.encode [0xde, 0xad])).1 := by
  have hd : Dialect.cpp ∈ Dialect.all := by decide
  have hpos : twoCalls.text.IsBoundary 0 := by decide
  have hupdated :
      (twoCalls.sync 0 Dialect.cpp.literal (Hex.encode [0xde, 0xad])).2.change = .updated := by decide
  have hmatch : Dialect.cpp.literal.match? twoCalls.text 0 = some ⟨28, 53, 56⟩ := by decide
  have htext : Literal.Statement.payload ⟨28, 53, 56⟩ twoCalls.text =
      "00\"), more = from_hex(\"11".toList := by decide
  obtain ⟨old, hrequotes, -⟩ := sync_replaces hd hpos hupdated
  obtain ⟨s, hs, hold⟩ := hrequotes.payload
  rw [hmatch, Option.some.injEq] at hs
  rw [← hs, htext] at hold
  rw [hold]
  exact ⟨hd, hpos, hupdated, hrequotes⟩

/-- The end of one call and the start of the next stand between two string
literals, and an update takes them away. -/
theorem Buffer.sync_replaces_between :
    twoCalls.sync 0 Dialect.cpp.literal (Hex.encode [0xde, 0xad]) =
        (⟨"const auto wasm = from_hex(\"dead\");".toList, true⟩, ⟨.updated, 35⟩) ∧
      twoCalls.text = "const auto wasm = from_hex(".toList ++
        Text.inQuotes "00\"), more = from_hex(\"11".toList ++ ");".toList ∧
      ¬ Text.IsBlankRow (Text.inQuotes "00\"), more = from_hex(\"11".toList) := by
  refine ⟨by decide, by decide, ?_⟩
  rintro ⟨gaps, hrow, hblank⟩
  have hfirst : '"' ∉ "00".toList := by decide
  have hsecond : '"' ∉ "11".toList := by decide
  have hbetween : '"' ∉ "), more = from_hex(".toList := by decide
  have hgaps : gaps = ["), more = from_hex(".toList] :=
    hrow.gaps_unique (.more hfirst hbetween (.last hsecond))
  rw [hgaps] at hblank
  have hparenthesis := hblank _ List.mem_cons_self ')' (by decide)
  revert hparenthesis
  decide

end WatInlay
