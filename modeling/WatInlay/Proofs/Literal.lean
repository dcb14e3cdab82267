/-
Literal statements, without offsets.

`Grammar.read?` takes a text apart at the statement it begins with: the lead up
to the opening quote, the payload, and what follows the statement. Matching at
an offset is this reading, moved to the offset, for every grammar
(`Grammar.match?_append`): no element looks behind the cursor, and the tail is
only accepted when it does not reach back into the lead.
-/

import WatInlay.Literal
import WatInlay.Proofs.Text

namespace WatInlay

/-! ### Cursors behind a seam -/

namespace Cursor

theorem rest_append (p r : Text) : (Cursor.mk (p ++ r) (Text.size p)).rest = r :=
  Text.after_eq rfl

/-- A search for the byte of an ASCII character from a seam on looks at the
second part only. -/
theorem findByte?_append {a : Char} (ha : a.toNat < 128) (p r : Text) :
    (Cursor.mk (p ++ r) (Text.size p)).findByte? (UInt8.ofNat a.toNat) =
      if a ∈ r then some (Text.size p + Text.size (r.takeWhile (· != a))) else none := by
  unfold findByte?
  rw [Text.drop_bytes_append, Text.findIdx?_bytes ha]
  split <;> rfl

end Cursor

namespace Literal

/-! ### Leads -/

/-- What an element takes off the head of a text, and what it leaves. -/
def Step.take? : Step → Text → Option (Text × Text)
  | .blanks, t => some (t.takeWhile Text.isBlank, t.dropWhile Text.isBlank)
  | .word w, t => (w.strip? t).map fun r => (w, r)
  | .maybe w, t => some (((w.strip? t).map fun r => (w, r)).getD ([], t))
  | .identifier, t =>
    if (t.takeWhile Text.isWordChar).isEmpty then none
    else some (t.takeWhile Text.isWordChar, t.dropWhile Text.isWordChar)

/-- What the elements take together, in order, and what they leave. -/
def takeAll? : List Step → Text → Option (Text × Text)
  | [], t => some ([], t)
  | s :: steps, t => do
    let (a, t) ← s.take? t
    let (b, t) ← takeAll? steps t
    return (a ++ b, t)

theorem Step.eq_append_of_take? {s : Step} {t a r : Text} (h : s.take? t = some (a, r)) :
    t = a ++ r := by
  cases s with
  | blanks =>
    cases h
    exact List.takeWhile_append_dropWhile.symm
  | word w =>
    obtain ⟨r, hr, heq⟩ := Option.map_eq_some_iff.mp h
    cases heq
    exact Text.strip?_eq_some_iff.mp hr
  | maybe w =>
    simp only [take?, Option.some.injEq] at h
    cases hw : w.strip? t with
    | none =>
      rw [hw] at h
      cases h
      rfl
    | some r =>
      rw [hw] at h
      cases h
      exact Text.strip?_eq_some_iff.mp hw
  | identifier =>
    simp only [take?] at h
    split at h
    · cases h
    · cases h
      exact List.takeWhile_append_dropWhile.symm

theorem takeAll?_cons_eq_some_iff {s : Step} {steps : List Step} {t lead r : Text} :
    takeAll? (s :: steps) t = some (lead, r) ↔
      ∃ a b u, s.take? t = some (a, u) ∧ takeAll? steps u = some (b, r) ∧ lead = a ++ b := by
  simp only [takeAll?, Option.bind_eq_bind, Option.bind_eq_some_iff, Option.pure_def,
    Option.some.injEq, Prod.exists, Prod.mk.injEq]
  constructor
  · rintro ⟨a, u, ha, b, v, hb, rfl, rfl⟩
    exact ⟨a, b, u, ha, hb, rfl⟩
  · rintro ⟨a, b, u, ha, hb, rfl⟩
    exact ⟨a, u, ha, b, r, hb, rfl, rfl⟩

theorem eq_append_of_takeAll? {steps : List Step} {t lead r : Text}
    (h : takeAll? steps t = some (lead, r)) : t = lead ++ r := by
  induction steps generalizing t lead with
  | nil =>
    cases h
    rfl
  | cons s steps ih =>
    obtain ⟨a, b, u, ha, hb, rfl⟩ := takeAll?_cons_eq_some_iff.mp h
    rw [Step.eq_append_of_take? ha, ih hb, List.append_assoc]

/-- An element moves a cursor by what it takes off the text behind it. -/
theorem Step.run?_append (s : Step) (p r : Text) :
    s.run? ⟨p ++ r, Text.size p⟩ =
      (s.take? r).map fun (a, _) => ⟨p ++ r, Text.size p + Text.size a⟩ := by
  have hrest := Cursor.rest_append p r
  cases s with
  | blanks => simp [run?, take?, Cursor.skipBlanks, Cursor.advance, hrest]
  | word w =>
    simp only [run?, take?, Cursor.eat?, hrest, Text.isPrefixOf_iff_strip?, Cursor.advance]
    cases w.strip? r <;> rfl
  | maybe w =>
    simp only [run?, take?, Cursor.eat?, hrest, Text.isPrefixOf_iff_strip?, Cursor.advance]
    cases w.strip? r <;> rfl
  | identifier =>
    simp only [run?, take?, Cursor.word?, hrest, Cursor.advance]
    split <;> rfl

theorem foldlM_run?_append (steps : List Step) (p r : Text) :
    steps.foldlM (fun c s => s.run? c) (Cursor.mk (p ++ r) (Text.size p)) =
      (takeAll? steps r).map fun (a, _) => ⟨p ++ r, Text.size p + Text.size a⟩ := by
  induction steps generalizing p r with
  | nil => rfl
  | cons s steps ih =>
    rw [List.foldlM_cons, Step.run?_append, takeAll?]
    cases ha : s.take? r with
    | none => rfl
    | some taken =>
      obtain ⟨a, u⟩ := taken
      have hr := Step.eq_append_of_take? ha
      subst hr
      have hmove : Cursor.mk (p ++ (a ++ u)) (Text.size p + Text.size a) =
          ⟨(p ++ a) ++ u, Text.size (p ++ a)⟩ := by simp
      simp only [Option.map_some, Option.bind_eq_bind, Option.bind_some, hmove]
      rw [ih]
      cases takeAll? steps u with
      | none => rfl
      | some lead => simp [Nat.add_assoc]

/-! ### Statements -/

/-- A text taken apart at the statement it begins with. -/
structure Reading where
  /-- What stands before the payload. -/
  lead : Text
  payload : Text
  /-- What follows the statement. -/
  rest : Text
  deriving DecidableEq, Repr

namespace Reading

/-- The statement as it is written. -/
def statement (k : Reading) (g : Grammar) : Text :=
  k.lead ++ k.payload ++ g.tail

/-- Where the statement stands, in a source in which the text stands at offset
`pos`. -/
def place (k : Reading) (g : Grammar) (pos : Nat) : Statement where
  payloadStart := pos + Text.size k.lead
  payloadStop := pos + Text.size (k.lead ++ k.payload)
  stop := pos + Text.size (k.statement g)

end Reading

/-- The text ends with its first semicolon. -/
def EndsAtSemicolon (t : Text) : Prop :=
  ∃ u, ';' ∉ u ∧ t = u ++ [';']

namespace Grammar

/-- Reads the statement at the head of a text: the lead, and then all up to the
first semicolon, which must end with the tail. -/
def read? (g : Grammar) (t : Text) : Option Reading := do
  let (lead, inside) ← takeAll? g.lead t
  let ';' :: rest := inside.dropWhile (· != ';') | none
  let payload ← Text.stripEnd? g.tail (inside.takeWhile (· != ';') ++ [';'])
  return { lead, payload, rest }

theorem read?_eq_some_iff {g : Grammar} {t : Text} {k : Reading} :
    g.read? t = some k ↔
      takeAll? g.lead t = some (k.lead, k.payload ++ g.tail ++ k.rest) ∧
        EndsAtSemicolon (k.payload ++ g.tail) := by
  constructor
  · intro h
    simp only [read?, Option.bind_eq_bind, Option.bind_eq_some_iff, Prod.exists] at h
    obtain ⟨lead, inside, hlead, h⟩ := h
    split at h
    · rename_i rest hrest
      obtain ⟨-, hsplit, hfirst⟩ := Text.dropWhile_ne_eq_cons_iff.mp hrest
      obtain ⟨payload, hpayload, hk⟩ := Option.bind_eq_some_iff.mp h
      cases hk
      have hends := Text.stripEnd?_eq_some_iff.mp hpayload
      refine ⟨?_, _, hfirst, hends.symm⟩
      rw [hlead, ← hends, List.append_assoc, List.singleton_append, ← hsplit]
    · cases h
  · rintro ⟨hlead, u, hu, hends⟩
    rw [hends, List.append_assoc, List.singleton_append] at hlead
    simp only [read?, hlead, Option.bind_eq_bind, Option.bind_some,
      Text.dropWhile_ne_append_cons hu, Text.takeWhile_ne_append_cons hu,
      Text.stripEnd?_eq_some_iff.mpr hends.symm]
    rfl

/-- A text that begins with a statement is the statement and what follows. -/
theorem eq_append_of_read? {g : Grammar} {t : Text} {k : Reading} (h : g.read? t = some k) :
    t = k.statement g ++ k.rest := by
  rw [eq_append_of_takeAll? (read?_eq_some_iff.mp h).1, Reading.statement]
  simp

/-- Where the tail of a grammar stands before the first semicolon behind a lead,
and does not reach back into the lead, there is a payload between them. -/
theorem slice?_tail_iff {g : Grammar} {q u rest : Text} :
    let stop := Text.size q + Text.size u + 1
    (g.tail.size ≤ stop ∧ Text.size q ≤ stop - g.tail.size ∧
        Text.slice? (q ++ (u ++ ';' :: rest)) (stop - g.tail.size) stop = some g.tail) ↔
      ∃ payload, u ++ [';'] = payload ++ g.tail := by
  have hsemi : Char.utf8Size ';' = 1 := by decide
  constructor
  · rintro ⟨-, hpos, hslice⟩
    obtain ⟨a, b, htext, ha, hab⟩ := Text.slice?_eq_some_iff.mp hslice
    have hsame : (q ++ (u ++ [';'])) ++ rest = (a ++ g.tail) ++ b := by rw [← htext]; simp
    obtain ⟨hcut, -⟩ := Text.append_inj_of_size_eq hsame (by rw [hab]; simp [hsemi]; omega)
    obtain ⟨payload, rfl, hpayload⟩ := Text.exists_of_append_eq_append hcut (by omega)
    exact ⟨payload, hpayload⟩
  · rintro ⟨payload, hpayload⟩
    have hsize := congrArg Text.size hpayload
    simp [hsemi] at hsize
    have hstart : Text.size q + Text.size u + 1 - g.tail.size = Text.size (q ++ payload) := by
      simp
      omega
    refine ⟨by omega, by rw [hstart]; simp, ?_⟩
    rw [hstart]
    refine Text.slice?_eq_some_iff.mpr ⟨q ++ payload, rest, ?_, rfl, by simp; omega⟩
    calc q ++ (u ++ ';' :: rest) = q ++ ((u ++ [';']) ++ rest) := by simp
      _ = q ++ payload ++ g.tail ++ rest := by rw [hpayload]; simp

/-- Matching at an offset is reading the text behind it. -/
theorem match?_append (g : Grammar) (p r : Text) :
    g.match? (p ++ r) (Text.size p) = (g.read? r).map (·.place g (Text.size p)) := by
  rw [match?, lead?, foldlM_run?_append, read?]
  cases hlead : takeAll? g.lead r with
  | none => rfl
  | some taken =>
    obtain ⟨lead, inside⟩ := taken
    have hr := eq_append_of_takeAll? hlead
    subst hr
    have hmove : Cursor.mk (p ++ (lead ++ inside)) (Text.size p + Text.size lead) =
        ⟨(p ++ lead) ++ inside, Text.size (p ++ lead)⟩ := by simp
    have hbyte : (0x3B : UInt8) = UInt8.ofNat ';'.toNat := by decide
    simp only [Option.map_some, Option.bind_eq_bind, Option.bind_some, hmove, hbyte,
      Cursor.findByte?_append (a := ';') (by decide)]
    by_cases hsemi : ';' ∈ inside
    · obtain ⟨u, rest, rfl, hu⟩ := List.eq_append_cons_of_mem hsemi
      simp only [hsemi, ↓reduceIte, Option.bind_some, Text.takeWhile_ne_append_cons hu,
        Text.dropWhile_ne_append_cons hu]
      rw [← List.append_assoc p lead]
      cases hpayload : Text.stripEnd? g.tail (u ++ [';']) with
      | none =>
        rw [if_neg]
        · rfl
        · intro hcond
          obtain ⟨payload, hends⟩ := slice?_tail_iff.mp hcond
          rw [Text.stripEnd?_eq_some_iff.mpr hends] at hpayload
          cases hpayload
      | some payload =>
        have hends := Text.stripEnd?_eq_some_iff.mp hpayload
        have hsize := congrArg Text.size hends
        have hone : Char.utf8Size ';' = 1 := by decide
        simp [hone] at hsize
        rw [if_pos (slice?_tail_iff.mpr ⟨payload, hends⟩)]
        simp [Reading.place, Reading.statement]
        omega
    · have hnone : inside.dropWhile (· != ';') = [] := by
        cases hrest : inside.dropWhile (· != ';') with
        | nil => rfl
        | cons c rest =>
          obtain ⟨-, hinside, -⟩ := Text.dropWhile_ne_eq_cons_iff.mp hrest
          rw [hinside] at hsemi
          simp at hsemi
      simp [hsemi, hnone]

end Grammar

end Literal

end WatInlay
