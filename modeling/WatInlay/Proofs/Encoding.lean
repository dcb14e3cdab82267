/-
Texts among their bytes.

UTF-8 is a prefix code: when a text's bytes begin with those of a word, the text
begins with the word (`bytes_prefix_iff`). It is also self-synchronising: the
first byte of a character differs from all bytes that follow a first one. So the
bytes of a word are found among those of a text only where the word itself
stands, between two character boundaries (`bytes_prefix_drop_iff`). The lenient
reader reads back what is written in ASCII (`ofBytesLossy_bytes_of_ascii`).
-/

import WatInlay.Proofs.Text
import WatInlay.Text.Utf8

namespace WatInlay.Text

/-! ### Characters -/

/-- The byte stands inside a character's form, not at its beginning. -/
def IsTrail (b : UInt8) : Prop :=
  128 ≤ b.toNat ∧ b.toNat < 192

theorem exists_utf8EncodeChar_eq_cons (c : Char) :
    ∃ b bs, String.utf8EncodeChar c = b :: bs ∧ ¬ IsTrail b ∧ ∀ x ∈ bs, IsTrail x := by
  unfold String.utf8EncodeChar IsTrail
  dsimp only
  split
  · refine ⟨_, _, rfl, ?_, by simp⟩
    simp only [UInt8.toNat_ofNat']
    omega
  · split
    · refine ⟨_, _, rfl, ?_, ?_⟩
      · simp only [UInt8.toNat_ofNat']
        omega
      · simp only [List.mem_cons, List.not_mem_nil, or_false, forall_eq, UInt8.toNat_ofNat']
        omega
    · split
      · refine ⟨_, _, rfl, ?_, ?_⟩
        · simp only [UInt8.toNat_ofNat']
          omega
        · simp only [List.mem_cons, List.not_mem_nil, or_false, forall_eq_or_imp, forall_eq,
            UInt8.toNat_ofNat']
          omega
      · refine ⟨_, _, rfl, ?_, ?_⟩
        · simp only [UInt8.toNat_ofNat']
          omega
        · simp only [List.mem_cons, List.not_mem_nil, or_false, forall_eq_or_imp, forall_eq,
            UInt8.toNat_ofNat']
          omega

/-- No character's form begins with that of another one. -/
theorem eq_of_utf8EncodeChar_append_eq {c d : Char} {x y : Bytes}
    (h : String.utf8EncodeChar c ++ x = String.utf8EncodeChar d ++ y) : c = d := by
  have hread : ∀ (e : Char) (z : Bytes),
      (String.utf8EncodeChar e ++ z).toByteArray.utf8DecodeChar? 0 = some e := by
    intro e z
    rw [List.toByteArray_append]
    refine ByteArray.utf8DecodeChar?_append_eq_some ?_ _
    have hform : (String.utf8EncodeChar e).toByteArray = [e].utf8Encode := by
      rw [List.utf8Encode, List.flatMap_singleton]
    rw [hform]
    exact List.utf8DecodeChar?_utf8Encode_singleton
  have hc := hread c x
  rw [h, hread d y] at hc
  exact (Option.some.inj hc).symm

/-! ### Texts -/

theorem bytes_ne_nil {t : Text} (h : t ≠ []) : bytes t ≠ [] := by
  rw [← List.length_pos_iff, length_bytes, Nat.pos_iff_ne_zero]
  exact fun hsize => h (size_eq_zero_iff.mp hsize)

/-- A text begins with a word when its bytes begin with the word's. -/
theorem bytes_prefix_iff {w t : Text} : bytes w <+: bytes t ↔ w <+: t := by
  constructor
  · intro h
    induction w generalizing t with
    | nil => exact List.nil_prefix
    | cons c w ih =>
      obtain ⟨x, hx⟩ := h
      cases t with
      | nil => exact absurd (List.append_eq_nil_iff.mp hx).1 (bytes_ne_nil (List.cons_ne_nil c w))
      | cons d t =>
        rw [bytes_cons, bytes_cons, List.append_assoc] at hx
        obtain rfl := eq_of_utf8EncodeChar_append_eq hx
        rw [List.cons_prefix_cons]
        exact ⟨rfl, ih ⟨x, List.append_cancel_left hx⟩⟩
  · rintro ⟨r, rfl⟩
    exact ⟨bytes r, (bytes_append w r).symm⟩

/-- Inside a character no word begins. -/
theorem not_bytes_prefix_drop {c : Char} {w : Text} (hw : w ≠ []) {n : Nat} (hn : 0 < n)
    (hc : n < c.utf8Size) (x : Bytes) :
    ¬ bytes w <+: (String.utf8EncodeChar c ++ x).drop n := by
  rintro ⟨y, hy⟩
  obtain ⟨d, w, rfl⟩ := List.exists_cons_of_ne_nil hw
  obtain ⟨b, bs, hb, hlead, -⟩ := exists_utf8EncodeChar_eq_cons d
  obtain ⟨a, as, ha, -, htrail⟩ := exists_utf8EncodeChar_eq_cons c
  have hlen : as.length + 1 = c.utf8Size := by
    rw [← String.length_utf8EncodeChar, ha, List.length_cons]
  obtain ⟨m, rfl⟩ := Nat.exists_eq_add_one.mpr hn
  have hfirst : as[m]? = some b := by
    have h := congrArg List.head? hy
    rw [bytes_cons, hb, ha, List.head?_drop, List.cons_append, List.cons_append, List.cons_append,
      List.getElem?_cons_succ, List.getElem?_append_left (by omega)] at h
    exact h.symm
  exact hlead (htrail b (List.mem_of_getElem? hfirst))

/-- Among the bytes of a text, those of a word stand where the word stands. -/
theorem bytes_prefix_drop_iff {w t : Text} (hw : w ≠ []) {n : Nat} :
    bytes w <+: (bytes t).drop n ↔ ∃ p r, t = p ++ w ++ r ∧ size p = n := by
  constructor
  · intro h
    induction t generalizing n with
    | nil =>
      have hnil : (bytes []).drop n = [] := List.drop_nil
      rw [hnil, List.prefix_nil] at h
      exact absurd h (bytes_ne_nil hw)
    | cons c t ih =>
      rcases Nat.eq_zero_or_pos n with rfl | hn
      · rw [List.drop_zero, bytes_prefix_iff] at h
        obtain ⟨r, hr⟩ := h
        exact ⟨[], r, hr.symm, rfl⟩
      · rw [bytes_cons] at h
        rcases Nat.lt_or_ge n c.utf8Size with hlt | hge
        · exact absurd h (not_bytes_prefix_drop hw hn hlt _)
        · rw [List.drop_append, String.length_utf8EncodeChar,
            List.drop_eq_nil_of_le (by rwa [String.length_utf8EncodeChar]), List.nil_append] at h
          obtain ⟨p, r, rfl, hp⟩ := ih h
          exact ⟨c :: p, r, rfl, by simp; omega⟩
  · rintro ⟨p, r, rfl, rfl⟩
    rw [List.append_assoc, drop_bytes_append, bytes_prefix_iff]
    exact List.prefix_append w r

/-! ### The lenient reader -/

/-- ASCII is read as it was written. -/
theorem ofBytesLossy_bytes_of_ascii {t : Text} (h : t.all (·.toNat < 128) = true) :
    ofBytesLossy (bytes t) = t := by
  induction t with
  | nil =>
    have hnil : bytes [] = [] := rfl
    rw [hnil, ofBytesLossy]
  | cons c t ih =>
    rw [List.all_cons, Bool.and_eq_true, decide_eq_true_iff] at h
    have hbyte : (UInt8.ofNat c.toNat).toNat = c.toNat := by
      rw [UInt8.toNat_ofNat', Nat.mod_eq_of_lt (by omega)]
    have hlow : UInt8.ofNat c.toNat < 0x80 := by
      rw [UInt8.lt_iff_toNat_lt, hbyte]
      exact h.1
    have hbytes : bytes (c :: t) = UInt8.ofNat c.toNat :: bytes t := by
      rw [bytes_cons, utf8EncodeChar_of_lt h.1, List.singleton_append]
    have htake : takeChar (UInt8.ofNat c.toNat) (bytes t) = (some c, bytes t) := by
      rw [takeChar, if_pos hlow, hbyte, Char.ofNat_toNat]
    rw [hbytes, ofBytesLossy, htake, ih h.2]
    rfl

end WatInlay.Text
