/-
Where blocks stand, without offsets.

A `Cut` takes a text apart at a block: what stands before it, its option line,
its body, and what follows. `cut?` reads a text from the left and answers its
first cut; the search with offsets is that reading, moved to the offset
(`find?_append`). A block that starts before another one also ends before it
(`Cut.Cuts.length_upTo_le`): the line break and the star of the later block end
the earlier one's line and body. Hence what follows a text's first block has no
part in finding it (`cut?_upTo_append`).
-/

import WatInlay.Block
import WatInlay.Proofs.Text

namespace WatInlay.Block

/-! ### Cuts -/

/-- A block as it is written. -/
def written (line body : Text) : Text :=
  openMark ++ line ++ '\n' :: body ++ closeMark

/-- A text taken apart at a block. -/
structure Cut where
  /-- What stands before the block. -/
  gap : Text
  /-- What stands between the opening mark and the end of its line. -/
  line : Text
  body : Text
  /-- What follows the block. -/
  rest : Text
  deriving DecidableEq, Repr

namespace Cut

/-- The text up to the body. -/
def upToBody (k : Cut) : Text :=
  k.gap ++ openMark ++ k.line ++ ['\n']

/-- The text up to the end of the block. -/
def upTo (k : Cut) : Text :=
  k.gap ++ written k.line k.body

/-- The options on the block's line. -/
def options (k : Cut) : List Text :=
  Text.pieces Text.isBlank k.line

/-- The block, in a source in which the text stands at offset `pos`. -/
def block (k : Cut) (pos : Nat) : Block where
  start := pos + Text.size k.gap
  options := k.options
  body := k.body
  bodyStart := pos + Text.size k.upToBody
  stop := pos + Text.size k.upTo

/-- `k` takes `t` apart at a block. -/
structure Cuts (k : Cut) (t : Text) : Prop where
  eq : t = k.upTo ++ k.rest
  line : '\n' ∉ k.line
  body : '*' ∉ k.body

end Cut

/-- The option line, the body and the rest of a text that begins with a block. -/
def head? (t : Text) : Option (Text × Text × Text) := do
  let afterMark ← openMark.strip? t
  let '\n' :: inside := afterMark.dropWhile (· != '\n') | none
  let rest ← closeMark.strip? (inside.dropWhile (· != '*'))
  return (afterMark.takeWhile (· != '\n'), inside.takeWhile (· != '*'), rest)

/-- The cut of a text at its first block. -/
def cut? : Text → Option Cut
  | [] => none
  | c :: t =>
    match head? (c :: t) with
    | some (line, body, rest) => some ⟨[], line, body, rest⟩
    | none => (cut? t).map fun k => { k with gap := c :: k.gap }

/-! ### The block at the head of a text -/

theorem head?_eq_some_iff {t line body rest : Text} :
    head? t = some (line, body, rest) ↔
      t = written line body ++ rest ∧ '\n' ∉ line ∧ '*' ∉ body := by
  constructor
  · intro h
    simp only [head?, Option.bind_eq_bind, Option.bind_eq_some_iff] at h
    obtain ⟨after, hafter, h⟩ := h
    split at h
    · rename_i inside hinside
      simp only [Option.bind_eq_some_iff, Option.pure_def, Option.some.injEq, Prod.mk.injEq] at h
      obtain ⟨r, hr, rfl, rfl, rfl⟩ := h
      rw [Text.strip?_eq_some_iff] at hafter hr
      obtain ⟨-, hline, hline'⟩ := Text.dropWhile_ne_eq_cons_iff.mp hinside
      have hstar : inside.dropWhile (· != '*') = '*' :: '/' :: r := hr
      obtain ⟨-, hbody, hbody'⟩ := Text.dropWhile_ne_eq_cons_iff.mp hstar
      refine ⟨?_, hline', hbody'⟩
      calc t = openMark ++ (after.takeWhile (· != '\n') ++ '\n' :: inside) := by rw [hafter, ← hline]
        _ = openMark ++ (after.takeWhile (· != '\n') ++
              '\n' :: (inside.takeWhile (· != '*') ++ '*' :: '/' :: r)) := by rw [← hbody]
        _ = _ := by simp [written, closeMark]
    · simp at h
  · rintro ⟨rfl, hline, hbody⟩
    have hsplit : written line body ++ rest =
        openMark ++ (line ++ '\n' :: (body ++ '*' :: '/' :: rest)) := by
      simp [written, closeMark]
    rw [hsplit, head?, Text.strip?_self_append]
    simp only [Option.bind_eq_bind, Option.bind_some, Text.dropWhile_ne_append_cons hline,
      Text.takeWhile_ne_append_cons hline, Text.dropWhile_ne_append_cons hbody,
      Text.takeWhile_ne_append_cons hbody]
    rfl

theorem atHead?_eq_map_head? (pos : Nat) (t : Text) :
    atHead? pos t = (head? t).map fun (line, body, rest) => Cut.block ⟨[], line, body, rest⟩ pos := by
  unfold atHead? head?
  cases openMark.strip? t with
  | none => rfl
  | some after =>
    simp only [Option.bind_eq_bind, Option.bind_some]
    cases hinside : after.dropWhile (· != '\n') with
    | nil => rfl
    | cons c inside =>
      obtain ⟨rfl, -, -⟩ := Text.dropWhile_ne_eq_cons_iff.mp hinside
      simp only
      cases closeMark.strip? (inside.dropWhile (· != '*')) with
      | none => rfl
      | some rest =>
        have hbreak : Char.utf8Size '\n' = 1 := by decide
        simp [Cut.block, Cut.options, Cut.upToBody, Cut.upTo, written, hbreak, Nat.add_assoc]

/-! ### All cuts of a text -/

namespace Cut

variable {k j : Cut} {t : Text}

theorem Cuts.head?_eq (h : k.Cuts (k.gap ++ t)) : head? t = some (k.line, k.body, k.rest) := by
  refine head?_eq_some_iff.mpr ⟨?_, h.line, h.body⟩
  have heq := h.eq
  rw [upTo, List.append_assoc] at heq
  exact List.append_cancel_left heq

/-- A block starts at one place in one way: line, body and rest are determined
by the gap before it. -/
theorem Cuts.eq_of_length_gap (hk : k.Cuts t) (hj : j.Cuts t)
    (hgap : k.gap.length = j.gap.length) : k = j := by
  have heq := hk.eq.symm.trans hj.eq
  rw [upTo, upTo, List.append_assoc, List.append_assoc] at heq
  obtain ⟨hsame, hrest⟩ := List.append_inj heq hgap
  have hk' : head? (written k.line k.body ++ k.rest) = some (k.line, k.body, k.rest) :=
    head?_eq_some_iff.mpr ⟨rfl, hk.line, hk.body⟩
  rw [hrest, head?_eq_some_iff.mpr ⟨rfl, hj.line, hj.body⟩] at hk'
  cases k
  cases j
  simp_all

/-- Where the line of a block ends. -/
theorem Cuts.getElem?_break (h : k.Cuts t) :
    t[k.gap.length + openMark.length + k.line.length]? = some '\n' := by
  have hat := Text.getElem?_length_append_cons (k.gap ++ openMark ++ k.line) '\n'
    (k.body ++ closeMark ++ k.rest)
  rw [h.eq]
  simp only [upTo, written, List.length_append, List.append_assoc, List.cons_append,
    Nat.add_assoc] at hat ⊢
  exact hat

/-- Where the body of a block ends. -/
theorem Cuts.getElem?_star (h : k.Cuts t) :
    t[k.gap.length + openMark.length + k.line.length + 1 + k.body.length]? = some '*' := by
  rw [h.eq]
  simp [upTo, written, closeMark, Nat.add_assoc, Nat.add_comm 1]

theorem length_upTo (k : Cut) :
    k.upTo.length =
      k.gap.length + openMark.length + k.line.length + 1 + k.body.length + closeMark.length := by
  simp [upTo, written]
  omega

theorem Cuts.length_rest_lt (h : k.Cuts t) : k.rest.length < t.length := by
  have hlen := congrArg List.length h.eq
  rw [List.length_append, length_upTo] at hlen
  omega

/-- A block that starts no later than another one ends no later: its line ends
at the other's line break at the latest, and then its body at the other's
star. -/
theorem Cuts.length_upTo_le (hk : k.Cuts t) (hj : j.Cuts t)
    (hgap : j.gap.length ≤ k.gap.length) : j.upTo.length ≤ k.upTo.length := by
  have hline : (j.gap ++ openMark ++ j.line).length ≤
      k.gap.length + openMark.length + k.line.length := by
    refine Text.length_append_le_of_getElem? (z := '\n' :: (j.body ++ closeMark ++ j.rest)) ?_
      (by simp; omega) hj.line
    rw [← hk.getElem?_break, hj.eq]
    simp [upTo, written]
  have hbody : (j.gap ++ openMark ++ j.line ++ ['\n'] ++ j.body).length ≤
      k.gap.length + openMark.length + k.line.length + 1 + k.body.length := by
    refine Text.length_append_le_of_getElem? (z := closeMark ++ j.rest) ?_
      (by simp at hline ⊢; omega) hj.body
    rw [← hk.getElem?_star, hj.eq]
    simp [upTo, written]
  rw [length_upTo, length_upTo]
  simp at hbody
  omega

end Cut

/-! ### The first cut -/

theorem cuts_of_cut?_eq_some {t : Text} {k : Cut} (h : cut? t = some k) : k.Cuts t := by
  fun_induction cut? t generalizing k with
  | case1 => cases h
  | case2 c t line body rest hhead =>
    cases h
    obtain ⟨ht, hline, hbody⟩ := head?_eq_some_iff.mp hhead
    exact ⟨by simp [ht, Cut.upTo], hline, hbody⟩
  | case3 c t hhead ih =>
    obtain ⟨k, hk, rfl⟩ := Option.map_eq_some_iff.mp h
    have := ih hk
    exact ⟨by rw [this.eq]; simp [Cut.upTo], this.line, this.body⟩

/-- Every block of a text is reached by the search, if not before. -/
theorem exists_cut?_of_cuts {t : Text} {j : Cut} (hj : j.Cuts t) :
    ∃ k, cut? t = some k ∧ k.gap.length ≤ j.gap.length := by
  fun_induction cut? t generalizing j with
  | case1 =>
    have := hj.eq
    simp [Cut.upTo, written] at this
  | case2 c t line body rest hhead => exact ⟨_, rfl, Nat.zero_le _⟩
  | case3 c t hhead ih =>
    obtain ⟨gap, line, body, rest⟩ := j
    cases gap with
    | nil =>
      have := Cut.Cuts.head?_eq (k := ⟨[], line, body, rest⟩) hj
      rw [hhead] at this
      cases this
    | cons d gap =>
      have heq := hj.eq
      simp only [Cut.upTo, List.cons_append, List.cons.injEq] at heq
      obtain ⟨k, hk, hle⟩ := ih (j := ⟨gap, line, body, rest⟩) ⟨heq.2, hj.line, hj.body⟩
      exact ⟨{ k with gap := c :: k.gap }, by simp [hk], by simpa using hle⟩

theorem cut?_eq_some_iff {t : Text} {k : Cut} :
    cut? t = some k ↔ k.Cuts t ∧ ∀ j : Cut, j.Cuts t → k.gap.length ≤ j.gap.length := by
  constructor
  · intro h
    refine ⟨cuts_of_cut?_eq_some h, fun j hj => ?_⟩
    obtain ⟨k', hk', hle⟩ := exists_cut?_of_cuts hj
    rw [h] at hk'
    cases hk'
    exact hle
  · rintro ⟨hk, hleast⟩
    obtain ⟨k', hk', hle⟩ := exists_cut?_of_cuts hk
    have hcuts := cuts_of_cut?_eq_some hk'
    rw [hk', hcuts.eq_of_length_gap hk (Nat.le_antisymm hle (hleast k' hcuts))]

theorem cut?_eq_none_iff {t : Text} : cut? t = none ↔ ∀ j : Cut, ¬ j.Cuts t := by
  constructor
  · intro h j hj
    obtain ⟨k, hk, -⟩ := exists_cut?_of_cuts hj
    rw [h] at hk
    cases hk
  · intro h
    rw [Option.eq_none_iff_forall_ne_some]
    intro k hk
    exact h k (cuts_of_cut?_eq_some hk)

/-- What follows the first block of a text has no part in finding it: a block
that would start earlier would end before it, and so stand in the text already. -/
theorem cut?_upTo_append {t : Text} {k : Cut} (h : cut? t = some k) (r : Text) :
    cut? (k.upTo ++ r) = some { k with rest := r } := by
  obtain ⟨hk, hleast⟩ := cut?_eq_some_iff.mp h
  have hk' : Cut.Cuts { k with rest := r } (k.upTo ++ r) := ⟨rfl, hk.line, hk.body⟩
  refine cut?_eq_some_iff.mpr ⟨hk', fun j hj => ?_⟩
  rcases Nat.lt_or_ge j.gap.length k.gap.length with hlt | hge
  · have hle : j.upTo.length ≤ k.upTo.length := hk'.length_upTo_le hj (Nat.le_of_lt hlt)
    obtain ⟨x, hx, -⟩ : ∃ x, k.upTo = j.upTo ++ x ∧ j.rest = x ++ r := by
      rcases List.append_eq_append_iff.mp hj.eq.symm with ⟨x, hx, hr⟩ | ⟨x, hx, hr⟩
      · exact ⟨x, hx, hr⟩
      · have : x = [] := by
          have := congrArg List.length hx
          simp at this
          exact List.eq_nil_of_length_eq_zero (by omega)
        subst this
        exact ⟨[], by simpa using hx.symm, by simpa using hr.symm⟩
    have hjt : Cut.Cuts { j with rest := x ++ k.rest } t := by
      refine ⟨?_, hj.line, hj.body⟩
      calc t = k.upTo ++ k.rest := hk.eq
        _ = j.upTo ++ (x ++ k.rest) := by rw [hx, List.append_assoc]
    have := hleast _ hjt
    exact this
  · exact hge

/-! ### The search with offsets -/

theorem firstIn?_eq_map_cut? (pos : Nat) (t : Text) :
    firstIn? pos t = (cut? t).map (·.block pos) := by
  induction t generalizing pos with
  | nil => rfl
  | cons c t ih =>
    rw [firstIn?, cut?, atHead?_eq_map_head?, ih]
    cases head? (c :: t) with
    | some found => rfl
    | none =>
      simp only [Option.map_none, Option.map_map]
      congr 1
      funext k
      simp [Cut.block, Cut.upTo, Cut.upToBody, Cut.options, Nat.add_assoc]

/-- The search from an offset on is the reading of the text behind it. -/
theorem find?_append (p r : Text) :
    find? (p ++ r) (Text.size p) = (cut? r).map (·.block (Text.size p)) := by
  rw [find?, Text.splitAt?_size]
  exact firstIn?_eq_map_cut? _ _

/-- The search from the start of a block on finds the block. -/
theorem Cut.Cuts.find?_start {k : Cut} {t : Text} (h : k.Cuts t) (p : Text) :
    find? (p ++ t) (k.block (Text.size p)).start = some (k.block (Text.size p)) := by
  have hhead : cut? (written k.line k.body ++ k.rest) = some ⟨[], k.line, k.body, k.rest⟩ :=
    cut?_eq_some_iff.mpr ⟨⟨rfl, h.line, h.body⟩, fun _ _ => Nat.zero_le _⟩
  have hsplit : p ++ t = (p ++ k.gap) ++ (written k.line k.body ++ k.rest) := by
    rw [h.eq, Cut.upTo]
    simp
  have hstart : (k.block (Text.size p)).start = Text.size (p ++ k.gap) := by simp [Cut.block]
  rw [hsplit, hstart, find?_append, hhead]
  simp [Cut.block, Cut.options, Cut.upToBody, Cut.upTo, Nat.add_assoc]

end WatInlay.Block
