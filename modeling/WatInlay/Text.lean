/-
Text measured in bytes.

A text is a list of characters; offsets and lengths count the bytes of its
UTF-8 form, which is how compilers and source locations count. `splitAt?` is
the one place where an offset meets a text: it succeeds exactly on character
boundaries (`splitAt?_eq_some_iff`), and every other cut is made with it.
-/

namespace WatInlay

/-- Characters in order. Offsets into a text count bytes of its UTF-8 form. -/
abbrev Text := List Char

/-- Bytes in order: the contents of a file, or what a program prints. -/
abbrev Bytes := List UInt8

namespace Text

/-! ### Measuring -/

/-- The number of bytes of the UTF-8 form. -/
def size : Text → Nat
  | [] => 0
  | c :: t => c.utf8Size + size t

/-- The UTF-8 form. -/
def bytes (t : Text) : Bytes :=
  t.flatMap String.utf8EncodeChar

@[simp] theorem size_nil : size [] = 0 := rfl

@[simp] theorem size_cons (c : Char) (t : Text) : size (c :: t) = c.utf8Size + size t := rfl

@[simp] theorem size_append (p r : Text) : size (p ++ r) = size p + size r := by
  induction p with
  | nil => simp
  | cons c p ih => simp [ih, Nat.add_assoc]

theorem size_eq_zero_iff {t : Text} : size t = 0 ↔ t = [] := by
  cases t with
  | nil => simp
  | cons c t =>
    have := Char.utf8Size_pos c
    simp
    omega

theorem length_bytes (t : Text) : (bytes t).length = size t := by
  induction t with
  | nil => rfl
  | cons c t ih => simp [bytes] at ih ⊢; omega

/-- The number of line breaks. -/
def lineBreaks (t : Text) : Nat :=
  t.count '\n'

/-- The number of line breaks among the first `n` bytes; `n` may lie past the
end or inside a character. -/
def lineBreaksBefore : Text → Nat → Nat
  | [], _ => 0
  | _ :: _, 0 => 0
  | c :: t, n + 1 => (if c = '\n' then 1 else 0) + lineBreaksBefore t (n + 1 - c.utf8Size)

/-! ### Cutting at byte offsets -/

/-- The two parts of a text before and after byte offset `n`, when `n` is a
character boundary. -/
def splitAt? : Text → Nat → Option (Text × Text)
  | t, 0 => some ([], t)
  | [], _ + 1 => none
  | c :: t, n + 1 =>
    if c.utf8Size ≤ n + 1 then
      (splitAt? t (n + 1 - c.utf8Size)).map fun (p, r) => (c :: p, r)
    else none

theorem splitAt?_eq_some_iff {t p r : Text} {n : Nat} :
    splitAt? t n = some (p, r) ↔ t = p ++ r ∧ size p = n := by
  fun_induction splitAt? t n generalizing p with
  | case1 t =>
    constructor
    · rintro h
      cases h
      simp
    · rintro ⟨rfl, h⟩
      rw [size_eq_zero_iff] at h
      simp [h]
  | case2 n =>
    simp only [reduceCtorEq, false_iff, not_and]
    rintro h
    simp [(List.append_eq_nil_iff.mp h.symm).1]
  | case3 c t n h ih =>
    constructor
    · intro hs
      obtain ⟨⟨p', r'⟩, hs, heq⟩ := Option.map_eq_some_iff.mp hs
      cases heq
      obtain ⟨rfl, hp⟩ := ih.mp hs
      have := Char.utf8Size_pos c
      simp
      omega
    · rintro ⟨ht, hp⟩
      cases p with
      | nil => simp at hp
      | cons d p =>
        simp only [List.cons_append, List.cons.injEq] at ht
        obtain ⟨rfl, rfl⟩ := ht
        rw [Option.map_eq_some_iff]
        exact ⟨(p, r), ih.mpr ⟨rfl, by simp at hp; omega⟩, rfl⟩
  | case4 c t n h =>
    simp only [reduceCtorEq, false_iff, not_and]
    intro ht hp
    cases p with
    | nil => simp at hp
    | cons d p =>
      simp only [List.cons_append, List.cons.injEq] at ht
      obtain ⟨rfl, rfl⟩ := ht
      simp at hp
      omega

@[simp] theorem splitAt?_size (p r : Text) : splitAt? (p ++ r) (size p) = some (p, r) :=
  splitAt?_eq_some_iff.mpr ⟨rfl, rfl⟩

/-- Offset `n` of `t` lies between two characters, or at an end. -/
def IsBoundary (t : Text) (n : Nat) : Prop :=
  (splitAt? t n).isSome = true

instance (t : Text) (n : Nat) : Decidable (IsBoundary t n) :=
  inferInstanceAs (Decidable (_ = true))

theorem isBoundary_iff {t : Text} {n : Nat} :
    IsBoundary t n ↔ ∃ p r, t = p ++ r ∧ size p = n := by
  simp only [IsBoundary, Option.isSome_iff_exists, Prod.exists, splitAt?_eq_some_iff]

theorem IsBoundary.le_size {t : Text} {n : Nat} (h : IsBoundary t n) : n ≤ size t := by
  obtain ⟨p, r, rfl, rfl⟩ := isBoundary_iff.mp h
  simp

/-- The text from byte `start` up to byte `stop`, when both are character
boundaries in this order. -/
def slice? (t : Text) (start stop : Nat) : Option Text :=
  if start ≤ stop then do
    let (_, r) ← splitAt? t start
    let (p, _) ← splitAt? r (stop - start)
    return p
  else none

theorem slice?_eq_some_iff {t m : Text} {start stop : Nat} :
    slice? t start stop = some m ↔
      ∃ p r, t = p ++ m ++ r ∧ size p = start ∧ size (p ++ m) = stop := by
  constructor
  · intro h
    unfold slice? at h
    split at h
    · simp only [Option.bind_eq_bind, Option.bind_eq_some_iff, Prod.exists] at h
      obtain ⟨p, q, hq, m', r, hr, heq⟩ := h
      cases heq
      obtain ⟨rfl, rfl⟩ := splitAt?_eq_some_iff.mp hq
      obtain ⟨rfl, hm⟩ := splitAt?_eq_some_iff.mp hr
      exact ⟨p, r, by simp, rfl, by simp; omega⟩
    · cases h
  · rintro ⟨p, r, rfl, rfl, rfl⟩
    simp [slice?]

/-- The text from byte `n` on; nothing when `n` lies past the end or inside a
character. -/
def after (t : Text) (n : Nat) : Text :=
  match splitAt? t n with
  | some (_, r) => r
  | none => []

theorem exists_of_after_eq_cons {t r : Text} {n : Nat} {c : Char} (h : after t n = c :: r) :
    ∃ p, t = p ++ c :: r ∧ size p = n := by
  unfold after at h
  split at h
  · rename_i p q hs
    subst h
    exact ⟨p, splitAt?_eq_some_iff.mp hs⟩
  · cases h

theorem after_eq {t p r : Text} (h : t = p ++ r) : after t (size p) = r := by
  subst h
  simp [after]

/-- What follows `word` at the head of a text. -/
def strip? : Text → Text → Option Text
  | [], t => some t
  | _ :: _, [] => none
  | w :: word, c :: t => if w = c then strip? word t else none

theorem strip?_eq_some_iff {word t r : Text} : strip? word t = some r ↔ t = word ++ r := by
  fun_induction strip? word t with
  | case1 t => simp [eq_comm]
  | case2 => simp
  | case3 w word t ih => simp [ih]
  | case4 w word c t h =>
    simp only [reduceCtorEq, List.cons_append, List.cons.injEq, false_iff, not_and]
    intro hc
    exact absurd hc.symm h

/-! ### Searching -/

/-- The byte offset of the first occurrence of `needle`. -/
def find? (needle : Text) : Text → Option Nat
  | [] => if needle.isEmpty then some 0 else none
  | c :: t =>
    if needle.isPrefixOf (c :: t) then some 0
    else (find? needle t).map (c.utf8Size + ·)

theorem exists_of_find?_eq_some {needle t : Text} {n : Nat} (h : find? needle t = some n) :
    ∃ p r, t = p ++ needle ++ r ∧ size p = n := by
  induction t generalizing n with
  | nil =>
    simp only [find?] at h
    split at h
    · rename_i hn
      cases h
      exact ⟨[], [], by simpa using hn.symm, rfl⟩
    · cases h
  | cons c t ih =>
    simp only [find?] at h
    split at h
    · rename_i hp
      cases h
      obtain ⟨r, hr⟩ := List.isPrefixOf_iff_prefix.mp hp
      exact ⟨[], r, by simpa using hr.symm, rfl⟩
    · obtain ⟨m, hm, rfl⟩ := Option.map_eq_some_iff.mp h
      obtain ⟨p, r, rfl, rfl⟩ := ih hm
      exact ⟨c :: p, r, by simp, by simp⟩

/-- Every occurrence of `needle`, taken from the left and without overlaps,
becomes `new`. The needle must not be empty. -/
def replaceAll (needle new : Text) : Text → Text
  | [] => []
  | c :: t =>
    if needle.isPrefixOf (c :: t) then
      new ++ replaceAll needle new (t.drop (needle.length - 1))
    else c :: replaceAll needle new t
termination_by t => t.length
decreasing_by all_goals simp; try omega

/-! ### Pieces -/

/-- The maximal runs of characters outside the class `p`, in order. -/
def pieces (p : Char → Bool) (t : Text) : List Text :=
  match t with
  | [] => []
  | c :: t =>
    if p c then pieces p t
    else (c :: t.takeWhile (!p ·)) :: pieces p (t.dropWhile (!p ·))
termination_by t.length
decreasing_by
  · simp
  · have := (List.dropWhile_suffix (!p ·) (l := t)).length_le
    simp
    omega

/-- The text without the characters of class `p` at its end. -/
def dropEndWhile (p : Char → Bool) (t : Text) : Text :=
  (t.reverse.dropWhile p).reverse

/-- The texts joined with `sep` between them. -/
def joinWith (sep : Text) : List Text → Text
  | [] => []
  | [t] => t
  | t :: ts => t ++ sep ++ joinWith sep ts

/-- The decimal digits of a number. -/
def ofNat (n : Nat) : Text :=
  Nat.toDigits 10 n

/-- The number that decimal digits write. -/
def decimalValue (digits : Text) : Nat :=
  digits.foldl (fun n c => 10 * n + (c.toNat - '0'.toNat)) 0

end Text

end WatInlay
