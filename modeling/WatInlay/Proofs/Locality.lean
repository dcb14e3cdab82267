/-
Scanning is local.

The block that is found from an offset on, and the literal statement that stands
at one, depend on the bytes up to their ends and on nothing else. The same bytes
in another text, at another offset and before whatever follows, are the same
block and the same statement, moved (`Block.find?_of_sameBytes`,
`Literal.Grammar.SelfDelimiting.match?_of_sameBytes`). Hence an edit behind a
block leaves it the first one, also where marks before it were passed over
because of what stands behind them (`Block.find?_result_iff`).
-/

import WatInlay.Buffer
import WatInlay.Proofs.Delimited
import WatInlay.Proofs.Encoding
import WatInlay.Proofs.Search

namespace WatInlay

/-! ### The same bytes in two texts -/

namespace Text

/-- The `n` bytes of `s` from offset `i` on are those of `t` from offset `j` on. -/
def SameBytes (s : Text) (i : Nat) (t : Text) (j n : Nat) : Prop :=
  (s.bytes.drop i).take n = (t.bytes.drop j).take n

instance (s : Text) (i : Nat) (t : Text) (j n : Nat) : Decidable (SameBytes s i t j n) :=
  inferInstanceAs (Decidable (_ = _))

/-- Where the bytes of a word stand behind a character boundary, the word does. -/
theorem SameBytes.prefix {p w r q u : Text}
    (h : SameBytes (p ++ (w ++ r)) (size p) (q ++ u) (size q) (size w)) : w <+: u := by
  rw [SameBytes, drop_bytes_append, drop_bytes_append, bytes_append,
    List.take_left' (length_bytes w)] at h
  rw [← bytes_prefix_iff, h]
  exact List.take_prefix _ _

/-- Texts that begin alike have the same bytes there. -/
theorem sameBytes_append (p x y : Text) {i n : Nat} (h : i + n ≤ size p) :
    SameBytes (p ++ x) i (p ++ y) i n := by
  have hi : i ≤ (bytes p).length := by
    rw [length_bytes]
    omega
  have hn : n ≤ ((bytes p).drop i).length := by
    rw [List.length_drop, length_bytes]
    omega
  rw [SameBytes, bytes_append, bytes_append, List.drop_append_of_le_length hi,
    List.drop_append_of_le_length hi, List.take_append_of_le_length hn,
    List.take_append_of_le_length hn]

end Text

/-! ### Blocks -/

namespace Block

variable {s t : Text} {i j : Nat} {b : Block}

/-- `b'` is `b`, and stands from `j` as `b` does from `i`. -/
structure Moved (i j : Nat) (b b' : Block) : Prop where
  start : b'.start + i = b.start + j
  options : b'.options = b.options
  body : b'.body = b.body
  bodyStart : b'.bodyStart + i = b.bodyStart + j
  stop : b'.stop + i = b.stop + j

theorem Moved.eq {b' : Block} (h : Moved i i b b') : b' = b := by
  obtain ⟨hstart, hoptions, hbody, hbodyStart, hstop⟩ := h
  cases b
  cases b'
  simp_all

theorem Cut.moved_block (k : Cut) (i j : Nat) : Moved i j (k.block i) (k.block j) where
  start := by simp only [block]; omega
  options := rfl
  body := rfl
  bodyStart := by simp only [block]; omega
  stop := by simp only [block]; omega

/-- The search takes only the bytes up to the end of the block that it finds. -/
theorem find?_of_sameBytes (hi : s.IsBoundary i) (hj : t.IsBoundary j)
    (h : find? s i = some b) (hsame : s.SameBytes i t j (b.stop - i)) :
    ∃ b', find? t j = some b' ∧ Moved i j b b' := by
  obtain ⟨p, r, rfl, rfl⟩ := Text.isBoundary_iff.mp hi
  obtain ⟨q, u, rfl, rfl⟩ := Text.isBoundary_iff.mp hj
  rw [find?_append, Option.map_eq_some_iff] at h
  obtain ⟨k, hk, rfl⟩ := h
  have hr := (cuts_of_cut?_eq_some hk).eq
  have hsize : (k.block (Text.size p)).stop - Text.size p = Text.size k.upTo :=
    Nat.add_sub_cancel_left _ _
  rw [hr, hsize] at hsame
  obtain ⟨v, rfl⟩ := hsame.prefix
  refine ⟨k.block (Text.size q), ?_, k.moved_block _ _⟩
  rw [find?_append, cut?_upTo_append hk]
  rfl

/-- There is no block behind a seam when there is none in what follows it. -/
theorem find?_append_eq_none_iff (p r : Text) :
    find? (p ++ r) (Text.size p) = none ↔ find? r 0 = none := by
  have hr : find? r 0 = _ := find?_append [] r
  rw [find?_append, hr, Option.map_eq_none_iff, Option.map_eq_none_iff]

theorem isBoundary_of_find?_eq_some (h : find? s i = some b) : s.IsBoundary i := by
  simp only [find?, Option.bind_eq_bind, Option.bind_eq_some_iff, Prod.exists] at h
  obtain ⟨p, r, hsplit, -⟩ := h
  exact Text.isBoundary_iff.mpr ⟨p, r, Text.splitAt?_eq_some_iff.mp hsplit⟩

/-- What follows the end of a block has no part in finding it. -/
theorem find?_append_of_le {p x : Text} (h : find? (p ++ x) i = some b) (hstop : b.stop ≤ p.size)
    (y : Text) : find? (p ++ y) i = some b := by
  have hi := isBoundary_of_find?_eq_some h
  obtain ⟨hle, hlong, -⟩ := find?_bounds h
  have hj : (p ++ y).IsBoundary i := by
    obtain ⟨q, u, heq, rfl⟩ := Text.isBoundary_iff.mp hi
    obtain ⟨v, rfl, -⟩ := Text.exists_of_append_eq_append heq.symm (by omega)
    exact Text.isBoundary_iff.mpr ⟨q, v ++ y, by rw [List.append_assoc], rfl⟩
  obtain ⟨b', hb', hmoved⟩ :=
    find?_of_sameBytes hi hj h (Text.sameBytes_append p x y (by omega))
  rw [hb', hmoved.eq]

/-- An edit at or behind the end of a block neither makes it, nor changes it, nor
brings another one before it. -/
theorem find?_result_iff {e : Edit} (hfits : e.Fits s) (hstop : b.stop ≤ e.start) :
    find? (e.result s) i = some b ↔ find? s i = some b := by
  obtain ⟨before, old, rest, rfl, hbefore, -, hresult⟩ := Edit.exists_of_fits hfits
  rw [hresult, List.append_assoc, List.append_assoc]
  rw [← hbefore] at hstop
  constructor
  · intro h
    exact find?_append_of_le h hstop _
  · intro h
    exact find?_append_of_le h hstop _

end Block

/-! ### Literal statements -/

namespace Literal

/-- `m'` stands from `j` as `m` does from `i`. -/
structure Statement.Moved (i j : Nat) (m m' : Statement) : Prop where
  payloadStart : m'.payloadStart + i = m.payloadStart + j
  payloadStop : m'.payloadStop + i = m.payloadStop + j
  stop : m'.stop + i = m.stop + j

theorem Reading.moved_place (k : Reading) (g : Grammar) (i j : Nat) :
    Statement.Moved i j (k.place g i) (k.place g j) where
  payloadStart := by simp only [place]; omega
  payloadStop := by simp only [place]; omega
  stop := by simp only [place]; omega

/-- There is no statement behind a seam when there is none at the head of what
follows it. -/
theorem Grammar.match?_append_eq_none_iff (g : Grammar) (p r : Text) :
    g.match? (p ++ r) (Text.size p) = none ↔ g.match? r 0 = none := by
  have hr : g.match? r 0 = _ := g.match?_append [] r
  rw [g.match?_append, hr, Option.map_eq_none_iff, Option.map_eq_none_iff]

/-- A statement that delimits itself is read again before any text. -/
theorem Grammar.SelfDelimiting.read?_statement_append {g : Grammar} (hg : g.SelfDelimiting)
    {r : Text} {k : Reading} (h : g.read? r = some k) (rest : Text) :
    g.read? (k.statement g ++ rest) = some { k with rest } :=
  hg.read?_eq (read?_eq_some_iff.mp h).1 (hg.semicolon_not_mem_payload h) rest

/-- Matching takes only the bytes up to the end of the statement. -/
theorem Grammar.SelfDelimiting.match?_of_sameBytes {g : Grammar} (hg : g.SelfDelimiting)
    {s t : Text} {i j : Nat} {m : Statement} (hi : s.IsBoundary i) (hj : t.IsBoundary j)
    (h : g.match? s i = some m) (hsame : s.SameBytes i t j (m.stop - i)) :
    ∃ m', g.match? t j = some m' ∧ Statement.Moved i j m m' := by
  obtain ⟨p, r, rfl, rfl⟩ := Text.isBoundary_iff.mp hi
  obtain ⟨q, u, rfl, rfl⟩ := Text.isBoundary_iff.mp hj
  rw [match?_append, Option.map_eq_some_iff] at h
  obtain ⟨k, hk, rfl⟩ := h
  have hr := eq_append_of_read? hk
  have hsize : (k.place g (Text.size p)).stop - Text.size p = Text.size (k.statement g) :=
    Nat.add_sub_cancel_left _ _
  rw [hr, hsize] at hsame
  obtain ⟨v, rfl⟩ := hsame.prefix
  refine ⟨k.place g (Text.size q), ?_, k.moved_place g _ _⟩
  rw [match?_append, hg.read?_statement_append hk]
  rfl

end Literal

/-! ### Both -/

/-- The same bytes are the same block and the same literal statement in every
text, at every character boundary; where nothing is found, nothing is found
behind any text. So no edit at or behind the end of a block has a part in what is
found up to there. -/
theorem scanning_local :
    (∀ (s t : Text) (i j : Nat) (b : Block), s.IsBoundary i → t.IsBoundary j →
        Block.find? s i = some b → s.SameBytes i t j (b.stop - i) →
        ∃ b', Block.find? t j = some b' ∧ Block.Moved i j b b') ∧
      (∀ d ∈ Dialect.all, ∀ (s t : Text) (i j : Nat) (m : Literal.Statement),
        s.IsBoundary i → t.IsBoundary j → d.literal.match? s i = some m →
        s.SameBytes i t j (m.stop - i) →
        ∃ m', d.literal.match? t j = some m' ∧ Literal.Statement.Moved i j m m') ∧
      (∀ p r : Text, (Block.find? (p ++ r) p.size = none ↔ Block.find? r 0 = none) ∧
        ∀ g : Literal.Grammar, g.match? (p ++ r) p.size = none ↔ g.match? r 0 = none) ∧
      ∀ (s : Text) (i : Nat) (b : Block) (e : Edit), e.Fits s → b.stop ≤ e.start →
        (Block.find? (e.result s) i = some b ↔ Block.find? s i = some b) := by
  refine ⟨?_, ?_, ?_, ?_⟩
  · intro s t i j b hi hj h hsame
    exact Block.find?_of_sameBytes hi hj h hsame
  · intro d hd s t i j m hi hj h hsame
    exact (Literal.selfDelimiting_of_mem_all hd).match?_of_sameBytes hi hj h hsame
  · intro p r
    constructor
    · exact Block.find?_append_eq_none_iff p r
    · intro g
      exact g.match?_append_eq_none_iff p r
  · intro s i b e hfits hstop
    exact Block.find?_result_iff hfits hstop

/-- A mark that opens no block, because of a star behind the line break, then a
block and its statement. -/
def heldSource : Text :=
  "é/* wat2wasm\n*)*/ /* wat2wasm a\n(b)*/ let c = hex::decode(\"00\").unwrap();".toList

/-- The same behind nothing and before another end of a comment. -/
def movedSource : Text :=
  "/* wat2wasm\n*)*/ /* wat2wasm a\n(b)*/ let c = hex::decode(\"00\").unwrap();*/".toList

theorem scanning_local_sample :
    (∃ b b', Block.find? heldSource 2 = some b ∧ Block.find? movedSource 0 = some b' ∧
        Block.Moved 2 0 b b' ∧ b.start = 19) ∧
      (∃ m m', Dialect.rust.literal.match? heldSource 38 = some m ∧
        Dialect.rust.literal.match? movedSource 36 = some m' ∧
        Literal.Statement.Moved 38 36 m m' ∧ m.stop = 74) ∧
      ∃ b, Block.find? heldSource 2 = some b ∧
        Block.find? (Edit.result ⟨38, 74, "*/".toList⟩ heldSource) 2 = some b := by
  obtain ⟨hblock, hstatement, -, hedit⟩ := scanning_local
  have hcut : Block.cut? (heldSource.drop 1) =
      some ⟨"/* wat2wasm\n*)*/ ".toList, " a".toList, "(b)".toList, heldSource.drop 37⟩ := by cbv
  have hfind := Block.find?_append (heldSource.take 1) (heldSource.drop 1)
  rw [hcut] at hfind
  have hmatch : Dialect.rust.literal.match? heldSource 38 = some ⟨60, 62, 74⟩ := by
    have hread : Dialect.rust.literal.read? (heldSource.drop 37) =
        some ⟨" let c = hex::decode(\"".toList, "00".toList, []⟩ := by decide
    have h := Dialect.rust.literal.match?_append (heldSource.take 37) (heldSource.drop 37)
    rw [hread] at h
    exact h
  obtain ⟨b', hb', hmoved⟩ :=
    hblock heldSource movedSource 2 0 _ (by decide) (by decide) hfind (by decide)
  obtain ⟨m', hm', hmoved'⟩ := hstatement Dialect.rust (by decide) heldSource movedSource 38 36 _
    (by decide) (by decide) hmatch (by decide)
  exact ⟨⟨_, b', hfind, hb', hmoved, rfl⟩, ⟨_, m', hmatch, hm', hmoved', rfl⟩,
    _, hfind, (hedit _ 2 _ _ (by decide) (by decide)).mpr hfind⟩

end WatInlay
