/-
JSON documents.

What a text says as JSON, without an account of how it is read. Each relation
takes a text, says what stands at its head, and gives the rest of it. White space
may stand between any two tokens. A number goes on as long as it can, so that no
text has two meanings.

By this account the printer is right: what it prints of a value, whatever the
value is, is a document with that value (`document_pretty`).
-/

import WatInlay.Json
import WatInlay.Json.Reader.Quoted

namespace WatInlay.Json

/-! ### Strings -/

/-- The characters that a backslash and a letter stand for. -/
def letterEscapes : List (Char × Char) :=
  [('"', '"'), ('\\', '\\'), ('/', '/'), ('b', '\x08'), ('f', '\x0c'), ('n', '\n'), ('r', '\r'),
    ('t', '\t')]

/-- The number that four hexadecimal digits write. -/
def hexCode? : Text → Option Nat
  | [a, b, c, d] => do
    let a ← hexValue? a
    let b ← hexValue? b
    let c ← hexValue? c
    let d ← hexValue? d
    return ((a * 16 + b) * 16 + c) * 16 + d
  | _ => none

/-- What stands between the quotes of a string, up to and with the closing one. A
character beyond U+FFFF is escaped in two halves. -/
inductive Quoted : Text → Text → Text → Prop where
  | close {r} : Quoted ('"' :: r) [] r
  | plain {c t s r} : 0x20 ≤ c.toNat → c ≠ '"' → c ≠ '\\' → Quoted t s r →
      Quoted (c :: t) (c :: s) r
  | letter {l c t s r} : (l, c) ∈ letterEscapes → Quoted t s r → Quoted ('\\' :: l :: t) (c :: s) r
  | number {digits c t s r} : hexCode? digits = some c.toNat → Quoted t s r →
      Quoted ('\\' :: 'u' :: digits ++ t) (c :: s) r
  | halves {high low c t s r} {h l : Nat} : hexCode? high = some h → hexCode? low = some l →
      0xD800 ≤ h → h < 0xDC00 → 0xDC00 ≤ l → l < 0xE000 →
      c.toNat = 0x10000 + (h - 0xD800) * 0x400 + (l - 0xDC00) → Quoted t s r →
      Quoted ('\\' :: 'u' :: high ++ '\\' :: 'u' :: low ++ t) (c :: s) r

/-! ### Numbers -/

/-- One digit or more, and no further one behind them. -/
structure Digits (t digits r : Text) : Prop where
  eq : t = digits ++ r
  ne_nil : digits ≠ []
  digit : ∀ c ∈ digits, c.isDigit = true
  stop : ∀ c, r.head? = some c → c.isDigit = false

/-- The digits before the point: a zero stands alone. -/
def Whole (t : Text) (n : Nat) (r : Text) : Prop :=
  ∃ digits, Digits t digits r ∧ (digits.head? = some '0' → digits = ['0']) ∧
    Text.decimalValue digits = n

/-- The point and the digits after it, if it is there. -/
inductive Fraction : Text → List (Fin 10) → Text → Prop where
  | none {r} : r.head? ≠ some '.' → Fraction r [] r
  | point {t digits r} {ds : List (Fin 10)} : Digits t digits r →
      digits = ds.map (fun d => Nat.digitChar d.val) → Fraction ('.' :: t) ds r

/-- The exponent, if there is one. -/
inductive Exponent : Text → Option Int → Text → Prop where
  | none {r} : (∀ c, r.head? = some c → c ≠ 'e' ∧ c ≠ 'E') → Exponent r none r
  | plain {e t digits r} : e = 'e' ∨ e = 'E' → Digits t digits r →
      Exponent (e :: t) (some (Text.decimalValue digits)) r
  | plus {e t digits r} : e = 'e' ∨ e = 'E' → Digits t digits r →
      Exponent (e :: '+' :: t) (some (Text.decimalValue digits)) r
  | minus {e t digits r} : e = 'e' ∨ e = 'E' → Digits t digits r →
      Exponent (e :: '-' :: t) (some (-(Text.decimalValue digits : Int))) r

/-- A number, with its sign if it is negative. -/
inductive Number : Text → Numeral → Text → Prop where
  | positive {t u v r} {n : Numeral} : n.negative = false → Whole t n.whole u →
      Fraction u n.fraction v → Exponent v n.exponent r → Number t n r
  | negative {t u v r} {n : Numeral} : n.negative = true → Whole t n.whole u →
      Fraction u n.fraction v → Exponent v n.exponent r → Number ('-' :: t) n r

/-! ### Values -/

mutual

/-- A value at the head of a text. -/
inductive Value : Text → Json → Text → Prop where
  | null {r} : Value ("null".toList ++ r) .null r
  | boolTrue {r} : Value ("true".toList ++ r) (.bool true) r
  | boolFalse {r} : Value ("false".toList ++ r) (.bool false) r
  | number {t n r} : Number t n r → Value t (.number n) r
  | string {t s r} : Quoted t s r → Value ('"' :: t) (.string s) r
  | emptyArray {t r} : trimStart t = ']' :: r → Value ('[' :: t) (.array []) r
  | array {t items r} : Items t items r → Value ('[' :: t) (.array items) r
  | emptyObject {t r} : trimStart t = '\x7d' :: r → Value ('\x7b' :: t) (.object []) r
  | object {t members r} : Members t members r → Value ('\x7b' :: t) (.object members) r

/-- Items up to and with the closing bracket, one or more. -/
inductive Items : Text → List Json → Text → Prop where
  | last {t v u r} : Value (trimStart t) v u → trimStart u = ']' :: r → Items t [v] r
  | more {t v u w vs r} : Value (trimStart t) v u → trimStart u = ',' :: w → Items w vs r →
      Items t (v :: vs) r

/-- Members up to and with the closing brace, one or more. -/
inductive Members : Text → List (Text × Json) → Text → Prop where
  | last {t k v u r} : Member t k v u → trimStart u = '\x7d' :: r → Members t [(k, v)] r
  | more {t k v u w ms r} : Member t k v u → trimStart u = ',' :: w → Members w ms r →
      Members t ((k, v) :: ms) r

/-- A key, a colon and a value. -/
inductive Member : Text → Text → Json → Text → Prop where
  | mk {t k v q u w r} : trimStart t = '"' :: q → Quoted q k u → trimStart u = ':' :: w →
      Value (trimStart w) v r → Member t k v r

end

/-- The text is a JSON document, and this is its value. -/
def Document (t : Text) (v : Json) : Prop :=
  ∃ r, Value (trimStart t) v r ∧ trimStart r = []

/-! ### White space -/

theorem trimStart_append {blanks : Text} (h : ∀ c ∈ blanks, isSpace c = true) (t : Text) :
    trimStart (blanks ++ t) = trimStart t :=
  List.dropWhile_append_of_pos h

theorem trimStart_of_head {t : Text} (h : ∀ c, t.head? = some c → isSpace c = false) :
    trimStart t = t := by
  cases t with
  | nil => rfl
  | cons c t => exact List.dropWhile_cons_of_neg (by simp [h c rfl])

theorem isSpace_newLine (n : Nat) : ∀ c ∈ newLine n, isSpace c = true := by
  intro c hc
  rcases List.mem_cons.mp hc with rfl | hc
  · decide
  · rw [List.eq_of_mem_replicate hc]
    decide

theorem isSpace_of_isDigit {c : Char} (h : c.isDigit = true) : isSpace c = false := by
  rw [← Bool.not_eq_true]
  intro hspace
  simp only [isSpace, Bool.or_eq_true, beq_iff_eq] at hspace
  rcases hspace with ((rfl | rfl) | rfl) | rfl <;> exact absurd h (by decide)

/-! ### Strings as they are printed -/

/-- A control character is escaped by its number. -/
theorem hexCode?_ofByte {n : Nat} (h : n < 0x20) :
    hexCode? ('0' :: '0' :: Hex.ofByte n.toUInt8) = some n := by
  revert n
  decide

theorem Quoted.escape {t s r : Text} (h : Quoted t s r) (c : Char) :
    Quoted (Json.escape c ++ t) (c :: s) r := by
  unfold Json.escape
  split
  · exact .letter (by decide) h
  · exact .letter (by decide) h
  · exact .letter (by decide) h
  · exact .letter (by decide) h
  · exact .letter (by decide) h
  · exact .letter (by decide) h
  · exact .letter (by decide) h
  · rename_i hquote hbackslash _ _ _ _ _
    split
    · rename_i hcontrol
      exact .number (hexCode?_ofByte hcontrol) h
    · rename_i hprintable
      exact .plain (Nat.not_lt.mp hprintable) hquote hbackslash h

/-- A text in quotes is the string of that text. -/
theorem quoted_flatMap_escape (s r : Text) : Quoted (s.flatMap escape ++ '"' :: r) s r := by
  induction s with
  | nil => exact .close
  | cons c s ih =>
    rw [List.flatMap_cons, List.append_assoc]
    exact ih.escape c

/-! ### Numbers as they are printed -/

/-- The text does not go on with a number that ends before it. -/
def Ends (r : Text) : Prop :=
  ∀ c, r.head? = some c → c.isDigit = false ∧ c ≠ '.' ∧ c ≠ 'e' ∧ c ≠ 'E'

theorem digits_ofNat (n : Nat) {r : Text} (hr : ∀ c, r.head? = some c → c.isDigit = false) :
    Digits (Text.ofNat n ++ r) (Text.ofNat n) r where
  eq := rfl
  ne_nil := Nat.toDigits_ne_nil
  digit _ hc := Nat.isDigit_of_mem_toDigits (by decide) (by decide) hc
  stop := hr

theorem decimalValue_ofNat (n : Nat) : Text.decimalValue (Text.ofNat n) = n :=
  Nat.ofDigitChars_ten_toDigits

/-- Only zero is written with a zero in front. -/
theorem ofNat_of_head?_eq_zero {n : Nat} (h : (Text.ofNat n).head? = some '0') :
    Text.ofNat n = ['0'] := by
  induction n using Nat.strongRecOn with
  | ind n ih =>
    unfold Text.ofNat at h ih ⊢
    rw [Nat.toDigits_eq_if (by decide)] at h ⊢
    split
    · rename_i hsmall
      rw [if_pos hsmall] at h
      exact congrArg (fun c => [c]) (Option.some.inj h)
    · rename_i hlarge
      rw [if_neg hlarge, List.head?_append, Option.or_of_isSome (by simp)] at h
      have hzero : n / 10 = 0 := by
        rw [← decimalValue_ofNat (n / 10), Text.ofNat, ih (n / 10) (by omega) h]
        rfl
      omega

theorem whole_ofNat (n : Nat) {r : Text} (hr : ∀ c, r.head? = some c → c.isDigit = false) :
    Whole (Text.ofNat n ++ r) n r :=
  ⟨_, digits_ofNat n hr, ofNat_of_head?_eq_zero, decimalValue_ofNat n⟩

namespace Numeral

/-- The digits after the point, with the point, if there are any. -/
def fractionText (n : Numeral) : Text :=
  if n.fraction.isEmpty then [] else '.' :: n.fraction.map fun (d : Fin 10) => Nat.digitChar d.val

/-- The exponent, if there is one. -/
def exponentText (n : Numeral) : Text :=
  match n.exponent with
  | none => []
  | some (.ofNat e) => 'e' :: Text.ofNat e
  | some (.negSucc e) => 'e' :: '-' :: Text.ofNat (e + 1)

theorem text_eq (n : Numeral) :
    n.text = (if n.negative then ['-'] else []) ++ Text.ofNat n.whole ++ n.fractionText ++
      n.exponentText :=
  rfl

variable {r : Text}

theorem exponent_text (n : Numeral) (hr : Ends r) :
    Exponent (n.exponentText ++ r) n.exponent r := by
  have hdigit : ∀ c, r.head? = some c → c.isDigit = false := fun c hc => (hr c hc).1
  unfold exponentText
  split
  · rename_i hnone
    rw [hnone]
    exact .none fun c hc => (hr c hc).2.2
  · rename_i e he
    rw [he, List.cons_append]
    have hexponent := Exponent.plain (.inl rfl) (digits_ofNat e hdigit)
    rwa [decimalValue_ofNat] at hexponent
  · rename_i e he
    rw [he, List.cons_append, List.cons_append]
    have hexponent := Exponent.minus (.inl rfl) (digits_ofNat (e + 1) hdigit)
    rwa [decimalValue_ofNat] at hexponent

/-- What follows the digits before or after the point is no digit, and what follows
the latter no point. -/
theorem head_exponentText (n : Numeral) (hr : Ends r) {c : Char}
    (hc : (n.exponentText ++ r).head? = some c) : c.isDigit = false ∧ c ≠ '.' := by
  unfold exponentText at hc
  split at hc
  · exact ⟨(hr c hc).1, (hr c hc).2.1⟩
  · cases hc
    decide
  · cases hc
    decide

theorem fraction_text (n : Numeral) {u : Text} (hu : ∀ c, u.head? = some c →
    c.isDigit = false ∧ c ≠ '.') : Fraction (n.fractionText ++ u) n.fraction u := by
  unfold fractionText
  split
  · rename_i hempty
    rw [List.isEmpty_iff.mp hempty]
    exact .none fun hc => (hu _ hc).2 rfl
  · rename_i hsome
    refine .point ⟨rfl, ?_, ?_, fun c hc => (hu c hc).1⟩ rfl
    · simpa using hsome
    · intro c hc
      obtain ⟨d, -, rfl⟩ := List.mem_map.mp hc
      rw [Nat.isDigit_digitChar]
      exact decide_eq_true d.isLt

theorem head_fractionText (n : Numeral) {u : Text} (hu : ∀ c, u.head? = some c →
    c.isDigit = false ∧ c ≠ '.') {c : Char} (hc : (n.fractionText ++ u).head? = some c) :
    c.isDigit = false := by
  unfold fractionText at hc
  split at hc
  · exact (hu c hc).1
  · cases hc
    decide

/-- The text of a number is that number, where no number goes on behind it. -/
theorem number_text (n : Numeral) (hr : Ends r) : Number (n.text ++ r) n r := by
  have hexponent := n.exponent_text hr
  have hfraction := n.fraction_text fun c hc => n.head_exponentText hr hc
  have hwhole := whole_ofNat n.whole fun c hc =>
    n.head_fractionText (fun c hc => n.head_exponentText hr hc) hc
  rw [text_eq, List.append_assoc, List.append_assoc, List.append_assoc]
  cases hnegative : n.negative with
  | false => exact .positive hnegative hwhole hfraction hexponent
  | true => exact .negative hnegative hwhole hfraction hexponent

end Numeral

/-! ### Values as they are printed -/

/-- A value does not begin with white space. -/
theorem Value.trimStart_eq {t r : Text} {v : Json} (h : Value t v r) : trimStart t = t := by
  refine trimStart_of_head fun c hc => ?_
  cases h with
  | number hnumber =>
    cases hnumber with
    | positive _ hwhole _ _ =>
      obtain ⟨digits, hdigits, -⟩ := hwhole
      obtain ⟨d, ds, hds⟩ := List.exists_cons_of_ne_nil hdigits.ne_nil
      rw [hdigits.eq, hds] at hc
      cases hc
      exact isSpace_of_isDigit (hdigits.digit c (hds ▸ List.mem_cons_self))
    | negative _ _ _ _ =>
      cases hc
      decide
  | _ =>
    cases hc
    decide

/-- White space in front of a value makes no difference. -/
theorem Value.behind {t r : Text} {v : Json} (h : Value t v r) {blanks : Text}
    (hblanks : ∀ c ∈ blanks, isSpace c = true) : Value (trimStart (blanks ++ t)) v r := by
  rwa [trimStart_append hblanks, h.trimStart_eq]

/-- A key in quotes on a line of its own, a colon, a space and a value. -/
theorem Value.member {t r : Text} {v : Json} (h : Value t v r) (n : Nat) (k : Text) :
    Member (newLine n ++ (quote k ++ ':' :: ' ' :: t)) k v r := by
  have hspace : ∀ c ∈ [' '], isSpace c = true := by
    intro c hc
    rw [List.mem_singleton.mp hc]
    decide
  refine .mk ?_ (quoted_flatMap_escape k (':' :: ' ' :: t)) rfl (h.behind hspace)
  rw [trimStart_append (isSpace_newLine n), quote, List.append_assoc]
  rfl

theorem ends_cons {c : Char} (h : c.isDigit = false ∧ c ≠ '.' ∧ c ≠ 'e' ∧ c ≠ 'E') (t : Text) :
    Ends (c :: t) := by
  intro c' hc'
  cases hc'
  exact h

theorem ends_newLine (n : Nat) (t : Text) : Ends (newLine n ++ t) :=
  ends_cons (by decide) _

theorem ends_comma (t : Text) : Ends (',' :: t) :=
  ends_cons (by decide) t

mutual

/-- What is printed of a value is that value. -/
theorem value_prettyAt : ∀ (v : Json) (n : Nat) {r : Text}, Ends r → Value (v.prettyAt n ++ r) v r
  | .null, n, r, _ => by
    rw [prettyAt]
    exact .null
  | .bool true, n, r, _ => by
    rw [prettyAt]
    exact .boolTrue
  | .bool false, n, r, _ => by
    rw [prettyAt]
    exact .boolFalse
  | .number m, n, r, hr => by
    rw [prettyAt]
    exact .number (m.number_text hr)
  | .string s, n, r, _ => by
    rw [prettyAt, quote, List.append_assoc]
    exact .string (quoted_flatMap_escape s r)
  | .array [], n, r, _ => by
    rw [prettyAt]
    exact .emptyArray rfl
  | .array (v :: vs), n, r, _ => by
    rw [prettyAt, List.append_assoc, List.append_assoc]
    exact .array (items_prettyItems (v :: vs) (List.cons_ne_nil v vs) (n + 1) n r)
  | .object [], n, r, _ => by
    rw [prettyAt]
    exact .emptyObject rfl
  | .object (m :: ms), n, r, _ => by
    rw [prettyAt, List.append_assoc, List.append_assoc]
    exact .object (members_prettyMembers (m :: ms) (List.cons_ne_nil m ms) (n + 1) n r)

/-- So are the items of an array, up to the closing bracket on its own line. -/
theorem items_prettyItems : ∀ (vs : List Json), vs ≠ [] → ∀ (n m : Nat) (r : Text),
    Items (prettyItems n vs ++ (newLine m ++ ']' :: r)) vs r
  | [], hne, _, _, _ => absurd rfl hne
  | [v], _, n, m, r => by
    have hvalue := value_prettyAt v n (ends_newLine m (']' :: r))
    rw [prettyItems, List.append_assoc]
    refine .last (hvalue.behind (isSpace_newLine n)) ?_
    rw [trimStart_append (isSpace_newLine m)]
    rfl
  | v :: w :: vs, _, n, m, r => by
    have hvalue := value_prettyAt v n (ends_comma
      (prettyItems n (w :: vs) ++ (newLine m ++ ']' :: r)))
    rw [prettyItems, List.append_assoc, List.append_assoc]
    exact .more (hvalue.behind (isSpace_newLine n)) rfl
      (items_prettyItems (w :: vs) (List.cons_ne_nil w vs) n m r)

/-- So are the members of an object, up to the closing brace on its own line. -/
theorem members_prettyMembers : ∀ (ms : List (Text × Json)), ms ≠ [] → ∀ (n m : Nat) (r : Text),
    Members (prettyMembers n ms ++ (newLine m ++ '\x7d' :: r)) ms r
  | [], hne, _, _, _ => absurd rfl hne
  | [(k, v)], _, n, m, r => by
    have hvalue := value_prettyAt v n (ends_newLine m ('\x7d' :: r))
    rw [prettyMembers, List.append_assoc, List.append_assoc]
    refine .last (hvalue.member n k) ?_
    rw [trimStart_append (isSpace_newLine m)]
    rfl
  | (k, v) :: (k', w) :: ms, _, n, m, r => by
    have hvalue := value_prettyAt v n (ends_comma
      (prettyMembers n ((k', w) :: ms) ++ (newLine m ++ '\x7d' :: r)))
    rw [prettyMembers, List.append_assoc, List.append_assoc, List.append_assoc]
    exact .more (hvalue.member n k) rfl
      (members_prettyMembers ((k', w) :: ms) (List.cons_ne_nil _ ms) n m r)

end

/-- The text of a value is a document with that value. -/
theorem document_pretty (v : Json) : Document v.pretty v := by
  have hvalue : Value (v.pretty ++ []) v [] := value_prettyAt v 0 (by simp [Ends])
  rw [List.append_nil] at hvalue
  exact ⟨[], by rwa [hvalue.trimStart_eq], rfl⟩

end WatInlay.Json
