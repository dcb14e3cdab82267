/-
Texts put together.

An offset into `p ++ r` that lies at or behind the seam is an offset into `r`,
moved by the size of `p`: line counts (`lineBreaksBefore_append_add`) and
searches in the bytes (`drop_bytes_append`) are read off `r` alone. An ASCII
character is found among the bytes of a text exactly where it stands among the
characters (`findIdx?_bytes`), so a search for its byte always ends on a
character boundary.
-/

import WatInlay.Text

namespace WatInlay.Text

/-! ### Line breaks -/

theorem lineBreaks_append (p r : Text) : lineBreaks (p ++ r) = lineBreaks p + lineBreaks r :=
  List.count_append

/-- Counting goes on behind a seam. -/
theorem lineBreaksBefore_append_add (p r : Text) (n : Nat) :
    lineBreaksBefore (p ++ r) (size p + n) = lineBreaks p + lineBreaksBefore r n := by
  induction p with
  | nil => simp [lineBreaks]
  | cons c p ih =>
    have hc := Char.utf8Size_pos c
    obtain ⟨m, hm⟩ : ∃ m, size (c :: p) + n = m + 1 := ⟨c.utf8Size + size p + n - 1, by simp; omega⟩
    have hrest : m + 1 - c.utf8Size = size p + n := by
      rw [← hm]
      simp
      omega
    rw [hm, List.cons_append, lineBreaksBefore, hrest, ih, lineBreaks, lineBreaks, List.count_cons]
    simp only [beq_iff_eq]
    omega

theorem lineBreaksBefore_zero (t : Text) : lineBreaksBefore t 0 = 0 := by
  cases t <;> rfl

/-- The line breaks before a seam are those of the first part. -/
theorem lineBreaksBefore_size (p r : Text) :
    lineBreaksBefore (p ++ r) (size p) = lineBreaks p := by
  have h := lineBreaksBefore_append_add p r 0
  rwa [lineBreaksBefore_zero] at h

/-! ### Cuts -/

/-- Of two cuts of one text, the earlier one cuts the first part of the later. -/
theorem exists_of_append_eq_append {a b c d : Text} (h : a ++ b = c ++ d)
    (hle : size a ≤ size c) : ∃ e, c = a ++ e ∧ b = e ++ d := by
  rcases List.append_eq_append_iff.mp h with ⟨e, hc, hb⟩ | ⟨e, ha, hd⟩
  · exact ⟨e, hc, hb⟩
  · have he : e = [] := by
      rw [← size_eq_zero_iff]
      have := congrArg size ha
      simp at this
      omega
    subst he
    exact ⟨[], by simpa using ha.symm, by simpa using hd.symm⟩

/-- A text has one cut at each offset. -/
theorem append_inj_of_size_eq {a b c d : Text} (h : a ++ b = c ++ d)
    (hsize : size a = size c) : a = c ∧ b = d := by
  obtain ⟨e, rfl, rfl⟩ := exists_of_append_eq_append h (Nat.le_of_eq hsize)
  have he : e = [] := by
    rw [← size_eq_zero_iff]
    simp at hsize
    omega
  simp [he]

/-- What stands behind a character boundary. -/
theorem IsBoundary.size_after {t : Text} {n : Nat} (h : IsBoundary t n) :
    size (after t n) = size t - n := by
  obtain ⟨p, r, rfl, rfl⟩ := isBoundary_iff.mp h
  rw [after_eq rfl, size_append, Nat.add_sub_cancel_left]

/-! ### Words at the head of a text -/

theorem strip?_self_append (word r : Text) : strip? word (word ++ r) = some r :=
  strip?_eq_some_iff.mpr rfl

theorem isPrefixOf_iff_strip? (word t : Text) : word.isPrefixOf t = (strip? word t).isSome := by
  rw [Bool.eq_iff_iff, List.isPrefixOf_iff_prefix, Option.isSome_iff_exists]
  simp only [strip?_eq_some_iff]
  exact exists_congr fun _ => eq_comm

theorem strip?_eq_none_iff {word t : Text} : strip? word t = none ↔ ¬ word <+: t := by
  rw [← List.isPrefixOf_iff_prefix, isPrefixOf_iff_strip?]
  simp

/-- Before a word that is not its beginning, `word` is missing unless it is the
beginning of that one, whatever text follows. -/
theorem strip?_append_eq_none_iff {word v : Text} (hv : v.isPrefixOf word = false) (x : Text) :
    strip? word (v ++ x) = none ↔ word.isPrefixOf v = false := by
  rw [strip?_eq_none_iff, ← Bool.not_eq_true, List.isPrefixOf_iff_prefix]
  apply not_congr
  constructor
  · intro hword
    rcases List.prefix_or_prefix_of_prefix hword (List.prefix_append v x) with h | h
    · exact h
    · rw [List.isPrefixOf_iff_prefix.mpr h] at hv
      cases hv
  · intro hword
    exact hword.trans (List.prefix_append v x)

/-- What stands before `word` at the end of a text. -/
def stripEnd? (word t : Text) : Option Text :=
  (strip? word.reverse t.reverse).map List.reverse

theorem stripEnd?_eq_some_iff {word t p : Text} : stripEnd? word t = some p ↔ t = p ++ word := by
  rw [stripEnd?, Option.map_eq_some_iff]
  constructor
  · rintro ⟨q, hq, rfl⟩
    have := congrArg List.reverse (strip?_eq_some_iff.mp hq)
    simpa using this
  · rintro rfl
    exact ⟨p.reverse, strip?_eq_some_iff.mpr (by simp), by simp⟩

/-! ### The first occurrence of a character -/

/-- A run of characters of a class ends where one outside the class follows. -/
theorem span_append_cons {p : Char → Bool} {l : Text} {c : Char} (hl : ∀ d ∈ l, p d = true)
    (hc : p c = false) (r : Text) :
    (l ++ c :: r).takeWhile p = l ∧ (l ++ c :: r).dropWhile p = c :: r := by
  constructor
  · rw [List.takeWhile_append_of_pos hl]
    simp [hc]
  · rw [List.dropWhile_append_of_pos hl]
    simp [hc]

theorem span_ne_append_cons {c : Char} {l : Text} (h : c ∉ l) (r : Text) :
    (l ++ c :: r).takeWhile (· != c) = l ∧ (l ++ c :: r).dropWhile (· != c) = c :: r := by
  apply span_append_cons
  · intro d hd
    rw [bne_iff_ne]
    rintro rfl
    exact h hd
  · exact bne_self_eq_false c

theorem takeWhile_ne_append_cons {c : Char} {l : Text} (h : c ∉ l) (r : Text) :
    (l ++ c :: r).takeWhile (· != c) = l :=
  (span_ne_append_cons h r).1

theorem dropWhile_ne_append_cons {c : Char} {l : Text} (h : c ∉ l) (r : Text) :
    (l ++ c :: r).dropWhile (· != c) = c :: r :=
  (span_ne_append_cons h r).2

/-- What the search for a character leaves begins with that character, and it
does not stand before. -/
theorem dropWhile_ne_eq_cons_iff {c d : Char} {t r : Text} :
    t.dropWhile (· != c) = d :: r ↔
      d = c ∧ t = t.takeWhile (· != c) ++ c :: r ∧ c ∉ t.takeWhile (· != c) := by
  constructor
  · intro h
    have hd : d = c := by
      have := List.head?_dropWhile_not (· != c) t
      rw [h] at this
      simpa using this
    subst hd
    refine ⟨rfl, ?_, fun hmem => ?_⟩
    · rw [← h, List.takeWhile_append_dropWhile]
    · have := List.all_eq_true.mp (List.all_takeWhile (p := (· != d)) (l := t)) d hmem
      simp at this
  · rintro ⟨rfl, ht, hmem⟩
    rw [ht]
    exact dropWhile_ne_append_cons hmem r

theorem getElem?_length_append_cons (l : Text) (c : Char) (r : Text) :
    (l ++ c :: r)[l.length]? = some c := by
  simp

/-- Between the start of `y` and an occurrence of `c` behind it there is all of
`y`, when `c` is not in `y`. -/
theorem length_append_le_of_getElem? {c : Char} {x y z : Text} {i : Nat}
    (hi : (x ++ y ++ z)[i]? = some c) (hx : x.length ≤ i) (hy : c ∉ y) :
    (x ++ y).length ≤ i := by
  rcases Nat.lt_or_ge i (x ++ y).length with hlt | hge
  · rw [List.getElem?_append_left hlt, List.getElem?_append_right hx] at hi
    exact absurd (List.mem_of_getElem? hi) hy
  · exact hge

/-! ### Bytes of ASCII characters -/

theorem bytes_cons (c : Char) (t : Text) : bytes (c :: t) = String.utf8EncodeChar c ++ bytes t := rfl

theorem bytes_append (p r : Text) : bytes (p ++ r) = bytes p ++ bytes r :=
  List.flatMap_append

/-- The bytes behind a seam. -/
theorem drop_bytes_append (p r : Text) : (bytes (p ++ r)).drop (size p) = bytes r := by
  rw [bytes_append, ← length_bytes p, List.drop_left]

/-- The bytes of a character that is not ASCII are not ASCII either. -/
theorem le_of_mem_utf8EncodeChar {c : Char} (hc : 128 ≤ c.toNat) {b : UInt8}
    (hb : b ∈ String.utf8EncodeChar c) : 128 ≤ b.toNat := by
  have hsmall : ¬ c.val.toNat ≤ 127 := by
    have : c.val.toNat = c.toNat := rfl
    omega
  rw [String.utf8EncodeChar] at hb
  simp only [hsmall, ↓reduceIte] at hb
  split at hb
  · simp only [List.mem_cons, List.not_mem_nil, or_false] at hb
    rcases hb with rfl | rfl <;> simp only [UInt8.toNat_ofNat'] <;> omega
  · split at hb
    · simp only [List.mem_cons, List.not_mem_nil, or_false] at hb
      rcases hb with rfl | rfl | rfl <;> simp only [UInt8.toNat_ofNat'] <;> omega
    · simp only [List.mem_cons, List.not_mem_nil, or_false] at hb
      rcases hb with rfl | rfl | rfl | rfl <;> simp only [UInt8.toNat_ofNat'] <;> omega

theorem utf8EncodeChar_of_lt {c : Char} (hc : c.toNat < 128) :
    String.utf8EncodeChar c = [UInt8.ofNat c.toNat] := by
  have hsmall : c.val.toNat ≤ 127 := by
    have : c.val.toNat = c.toNat := rfl
    omega
  rw [String.utf8EncodeChar]
  simp only [hsmall, ↓reduceIte]
  rfl

/-- The byte of an ASCII character occurs in the form of that character only. -/
theorem mem_utf8EncodeChar_iff {a c : Char} (ha : a.toNat < 128) :
    UInt8.ofNat a.toNat ∈ String.utf8EncodeChar c ↔ c = a := by
  have hbyte : (UInt8.ofNat a.toNat).toNat = a.toNat := by
    rw [UInt8.toNat_ofNat']
    omega
  constructor
  · intro hmem
    have hc : c.toNat < 128 := by
      rcases Nat.lt_or_ge c.toNat 128 with hc | hc
      · exact hc
      · have := le_of_mem_utf8EncodeChar hc hmem
        omega
    rw [utf8EncodeChar_of_lt hc, List.mem_singleton] at hmem
    have heq := congrArg UInt8.toNat hmem
    rw [hbyte, UInt8.toNat_ofNat'] at heq
    rw [← Char.toNat_inj]
    omega
  · rintro rfl
    rw [utf8EncodeChar_of_lt ha]
    exact List.mem_singleton_self _

/-- A line break has one byte, and no other character has that byte. -/
theorem count_take_utf8EncodeChar (c : Char) (n : Nat) :
    ((String.utf8EncodeChar c).take (n + 1)).count 0x0A = if c = '\n' then 1 else 0 := by
  by_cases hc : c = '\n'
  · subst hc
    rw [utf8EncodeChar_of_lt (by decide), if_pos rfl, List.take_succ_cons, List.take_nil]
    rfl
  · rw [if_neg hc, List.count_eq_zero]
    intro hmem
    exact hc ((mem_utf8EncodeChar_iff (a := '\n') (by decide)).mp (List.mem_of_mem_take hmem))

/-- Line breaks may be counted among the bytes. -/
theorem lineBreaksBefore_eq_count (t : Text) (n : Nat) :
    lineBreaksBefore t n = ((bytes t).take n).count 0x0A := by
  fun_induction lineBreaksBefore t n with
  | case1 n => simp [bytes]
  | case2 c t => simp
  | case3 c t n ih =>
    rw [bytes_cons, List.take_append, List.count_append, count_take_utf8EncodeChar,
      String.length_utf8EncodeChar, ih]

/-- The byte of an ASCII character is first found where the character first
stands, whatever characters of several bytes come before it. -/
theorem findIdx?_bytes {a : Char} (ha : a.toNat < 128) (t : Text) :
    (bytes t).findIdx? (· == UInt8.ofNat a.toNat) =
      if a ∈ t then some (size (t.takeWhile (· != a))) else none := by
  induction t with
  | nil => rfl
  | cons c t ih =>
    rw [bytes_cons, List.findIdx?_append, ih]
    by_cases hc : c = a
    · subst hc
      simp [utf8EncodeChar_of_lt ha]
    · have hnone : (String.utf8EncodeChar c).findIdx? (· == UInt8.ofNat a.toNat) = none := by
        rw [List.findIdx?_eq_none_iff]
        intro b hb
        rw [beq_eq_false_iff_ne]
        rintro rfl
        exact hc ((mem_utf8EncodeChar_iff ha).mp hb)
      have hmem : a ∈ c :: t ↔ a ∈ t := by simp [Ne.symm hc]
      rw [hnone]
      simp only [hmem, Option.none_or, String.length_utf8EncodeChar]
      split
      · simp [hc, Nat.add_comm]
      · rfl

end WatInlay.Text
