/-
The readers read what is written.

What stands in a text as JSON, a reader takes: `readFigures` a number and
`readString` a string with its meaning, `skipString` and `skip` the same text
without it. A value is passed over whole, whatever stands in it, since its end
finds the brackets around it as its start left them (`Value.skipIn_eq`). None of
this depends on how the text is laid out.
-/

import Mathlib.Data.List.DropRight
import WatInlay.Proofs.Document
import WatInlay.Json.Reader.Skip

namespace WatInlay.Json

/-! ### Numbers -/

section Numbers

variable {t r : Text}

theorem Digits.exists_eq_cons {digits : Text} (h : Digits t digits r) :
    ∃ c u, t = c :: u ∧ c.isDigit = true := by
  obtain ⟨c, u, rfl⟩ := List.exists_cons_of_ne_nil h.ne_nil
  exact ⟨c, u ++ r, h.eq, h.digit c List.mem_cons_self⟩

/-- A digit is none of the characters that have a meaning of their own. -/
theorem ne_of_isDigit {c d : Char} (hc : c.isDigit = true) (hd : d.isDigit = false) : c ≠ d := by
  rintro rfl
  rw [hc] at hd
  cases hd

theorem Digits.readDigits_eq {digits : Text} (h : Digits t digits r) (atEnd : Fault) :
    readDigits atEnd t = .ok (digits, r) := by
  obtain ⟨c, u, hcons, hc⟩ := h.exists_eq_cons
  have hspan : t.takeWhile Char.isDigit = digits ∧ t.dropWhile Char.isDigit = r := by
    rw [h.eq, List.takeWhile_append_of_pos h.digit, List.dropWhile_append_of_pos h.digit]
    cases hr : r with
    | nil => simp
    | cons d r => simp [h.stop d (by rw [hr]; rfl)]
  rw [hcons] at hspan ⊢
  simp only [readDigits, hc, ↓reduceIte]
  rw [hspan.1, hspan.2]

theorem Whole.readWhole_eq {n : Nat} (h : Whole t n r) (atEnd : Fault) :
    ∃ digits, readWhole atEnd t = .ok (digits, r) ∧ Text.decimalValue digits = n := by
  obtain ⟨digits, hdigits, hzero, hn⟩ := h
  refine ⟨digits, ?_, hn⟩
  rw [readWhole, hdigits.readDigits_eq]
  split
  · rename_i heq
    cases heq
    cases hzero rfl
  · rfl

theorem Fraction.readFraction_eq {ds : List (Fin 10)} (h : Fraction t ds r) (atEnd : Fault) :
    readFraction atEnd t = .ok (ds.map fun d => Nat.digitChar d.val, r) := by
  cases h with
  | none hr =>
    unfold readFraction
    split
    · exact absurd rfl hr
    · rfl
  | point hdigits heq => rw [readFraction, hdigits.readDigits_eq, heq]

theorem Digits.readSign_eq {digits : Text} (h : Digits t digits r) : readSign t = (false, t) := by
  obtain ⟨c, u, rfl, hc⟩ := h.exists_eq_cons
  unfold readSign
  split
  · rename_i heq
    exact absurd (List.cons.inj heq).1 (ne_of_isDigit hc (by decide))
  · rename_i heq
    exact absurd (List.cons.inj heq).1 (ne_of_isDigit hc (by decide))
  · rfl

theorem Exponent.readExponent_eq {e : Option Int} (h : Exponent t e r) (atEnd : Fault) :
    readExponent atEnd t = .ok (e, r) := by
  cases h with
  | none hr =>
    cases t with
    | nil => rfl
    | cons c t => rw [readExponent, if_neg (by simpa using hr c rfl)]
  | plain he hdigits =>
    rw [readExponent, if_pos he, hdigits.readSign_eq]
    simp only [hdigits.readDigits_eq]
    rfl
  | plus he hdigits =>
    rw [readExponent, if_pos he]
    simp only [readSign, hdigits.readDigits_eq]
    rfl
  | minus he hdigits =>
    rw [readExponent, if_pos he]
    simp only [readSign, hdigits.readDigits_eq]
    rfl

/-- The digits as they stand in the text are those of the number. -/
structure Figures.Writes (f : Figures) (n : Numeral) : Prop where
  negative : f.negative = n.negative
  whole : Text.decimalValue f.whole = n.whole
  fraction : f.fraction = n.fraction.map fun d => Nat.digitChar d.val
  exponent : f.exponent = n.exponent

/-- A number begins with a minus sign or a digit. -/
theorem Number.exists_eq_cons {n : Numeral} (h : Number t n r) :
    ∃ c u, t = c :: u ∧ (c = '-' ∨ c.isDigit = true) := by
  cases h with
  | positive _ hwhole _ _ =>
    obtain ⟨digits, hdigits, -⟩ := hwhole
    obtain ⟨c, u, rfl, hc⟩ := hdigits.exists_eq_cons
    exact ⟨c, u, rfl, .inr hc⟩
  | negative _ _ _ _ => exact ⟨_, _, rfl, .inl rfl⟩

/-- The parts of a number follow each other behind its sign. -/
theorem readFigures_of_parts {atEnd : Fault} {f : Figures} {u v w : Text}
    (hsign : (match t with
      | '-' :: t => (true, t)
      | t => (false, t)) = (f.negative, u))
    (hwhole : readWhole atEnd u = .ok (f.whole, v))
    (hfraction : readFraction atEnd v = .ok (f.fraction, w))
    (hexponent : readExponent atEnd w = .ok (f.exponent, r)) :
    readFigures atEnd t = .ok (f, r) := by
  unfold readFigures
  split
  rename_i negative u' heq
  cases heq.symm.trans hsign
  rw [hwhole]
  dsimp only [Except.bind, bind]
  rw [hfraction]
  dsimp only
  rw [hexponent]
  rfl

theorem Number.readFigures_eq {n : Numeral} (h : Number t n r) (atEnd : Fault) :
    ∃ f, readFigures atEnd t = .ok (f, r) ∧ f.Writes n := by
  cases h with
  | positive hsign hwhole hfraction hexponent =>
    obtain ⟨whole, hread, hvalue⟩ := hwhole.readWhole_eq atEnd
    refine ⟨⟨false, whole, _, _⟩, readFigures_of_parts ?_ hread (hfraction.readFraction_eq atEnd)
      (hexponent.readExponent_eq atEnd), hsign.symm, hvalue, rfl, rfl⟩
    obtain ⟨digits, hdigits, -⟩ := hwhole
    obtain ⟨c, u, rfl, hc⟩ := hdigits.exists_eq_cons
    split
    · rename_i heq
      exact absurd (List.cons.inj heq).1 (ne_of_isDigit hc (by decide))
    · rfl
  | negative hsign hwhole hfraction hexponent =>
    obtain ⟨whole, hread, hvalue⟩ := hwhole.readWhole_eq atEnd
    exact ⟨⟨true, whole, _, _⟩, readFigures_of_parts rfl hread (hfraction.readFraction_eq atEnd)
      (hexponent.readExponent_eq atEnd), hsign.symm, hvalue, rfl, rfl⟩

end Numbers

/-! ### Strings -/

section Strings

variable {t s r : Text}

/-- Four hexadecimal digits are four characters. -/
theorem readHex_append {digits : Text} {n : Nat} (h : hexCode? digits = some n) (t : Text) :
    readHex (digits ++ t) = .ok (n, t) := by
  unfold hexCode? at h
  split at h
  · rename_i a b c d
    simp only [Option.bind_eq_bind, Option.bind_eq_some_iff, Option.pure_def,
      Option.some.injEq] at h
    obtain ⟨a', ha, b', hb, c', hc, d', hd, rfl⟩ := h
    have hsize : ¬ Text.size ([a, b, c, d] ++ t) < 4 := by
      have := a.utf8Size_pos
      have := b.utf8Size_pos
      have := c.utf8Size_pos
      have := d.utf8Size_pos
      simp only [Text.size_append, Text.size_cons]
      omega
    unfold readHex
    rw [if_neg hsize]
    simp only [List.cons_append, List.nil_append, ha, hb, hc, hd]
  · cases h

/-- A letter behind a backslash. -/
theorem readEscape_letter {l c : Char} (h : (l, c) ∈ letterEscapes) (t : Text) :
    readEscape (l :: t) = .ok (c, t) := by
  simp only [letterEscapes, List.mem_cons, Prod.mk.injEq, List.not_mem_nil, or_false] at h
  rcases h with ⟨rfl, rfl⟩ | ⟨rfl, rfl⟩ | ⟨rfl, rfl⟩ | ⟨rfl, rfl⟩ | ⟨rfl, rfl⟩ | ⟨rfl, rfl⟩ |
    ⟨rfl, rfl⟩ | ⟨rfl, rfl⟩ <;> rfl

/-- A character escaped in one piece is none of the halves. -/
theorem readEscape_number {digits : Text} {c : Char} (h : hexCode? digits = some c.toNat)
    (t : Text) : readEscape ('u' :: digits ++ t) = .ok (c, t) := by
  have hvalid : c.toNat < 0xD800 ∨ 0xDFFF < c.toNat ∧ c.toNat < 0x110000 := c.valid
  have hlow : ¬ (0xDC00 ≤ c.toNat ∧ c.toNat ≤ 0xDFFF) := by omega
  have hhigh : ¬ (0xD800 ≤ c.toNat ∧ c.toNat ≤ 0xDBFF) := by omega
  simp only [List.cons_append, readEscape, readHex_append h t, bind, Except.bind, if_neg hlow,
    if_neg hhigh, Char.ofNat_toNat]
  rfl

/-- A character escaped in two halves. -/
theorem readEscape_halves {high low : Text} {c : Char} {h l : Nat} (hhigh : hexCode? high = some h)
    (hlow : hexCode? low = some l) (hh : 0xD800 ≤ h) (hh' : h < 0xDC00) (hl : 0xDC00 ≤ l)
    (hl' : l < 0xE000) (hc : c.toNat = 0x10000 + (h - 0xD800) * 0x400 + (l - 0xDC00)) (t : Text) :
    readEscape ('u' :: high ++ '\\' :: 'u' :: low ++ t) = .ok (c, t) := by
  have hnotLow : ¬ (0xDC00 ≤ h ∧ h ≤ 0xDFFF) := by omega
  have hisHigh : 0xD800 ≤ h ∧ h ≤ 0xDBFF := by omega
  have hisLow : 0xDC00 ≤ l ∧ l ≤ 0xDFFF := by omega
  have hsecond : readLowHalf ('\\' :: 'u' :: (low ++ t)) = .ok (l, t) := by
    simp only [readLowHalf, readHex_append hlow t, bind, Except.bind, if_pos hisLow]
    rfl
  have hfirst := readHex_append hhigh ('\\' :: 'u' :: (low ++ t))
  simp only [List.cons_append, List.append_assoc, readEscape, hfirst, bind, Except.bind,
    if_neg hnotLow, if_pos hisHigh, hsecond, ← hc, Char.ofNat_toNat]
  rfl

theorem readString_escape {c : Char} {u : Text} (h : readEscape t = .ok (c, u))
    (hs : readString u = .ok (s, r)) : readString ('\\' :: t) = .ok (c :: s, r) := by
  rw [readString, if_neg (by decide), if_pos rfl]
  split
  · rename_i heq
    rw [h] at heq
    cases heq
  · rename_i heq
    rw [h] at heq
    cases heq
    rw [hs]

theorem Quoted.readString_eq (h : Quoted t s r) : readString t = .ok (s, r) := by
  induction h with
  | close => rw [readString, if_pos rfl]
  | plain hcontrol hquote hbackslash _ ih =>
    rw [readString, if_neg hquote, if_neg hbackslash, if_neg (by omega), ih]
  | letter hletter _ ih => exact readString_escape (readEscape_letter hletter _) ih
  | number hdigits _ ih => exact readString_escape (readEscape_number hdigits _) ih
  | halves hhigh hlow hh hh' hl hl' hc _ ih =>
    exact readString_escape (readEscape_halves hhigh hlow hh hh' hl hl' hc _) ih

theorem skipString_number {digits : Text} {n : Nat} (h : hexCode? digits = some n)
    (hs : skipString t = .ok r) : skipString ('\\' :: 'u' :: (digits ++ t)) = .ok r := by
  rw [skipString]
  split
  · rename_i heq
    rw [readHex_append h] at heq
    cases heq
  · rename_i heq
    rw [readHex_append h] at heq
    cases heq
    exact hs

theorem Quoted.skipString_eq (h : Quoted t s r) : skipString t = .ok r := by
  induction h with
  | close => rw [skipString]
  | plain hcontrol hquote hbackslash _ ih =>
    unfold skipString
    split
    · rename_i heq
      cases heq
    · rename_i heq
      exact absurd (List.cons.inj heq).1 hquote
    · rename_i heq
      exact absurd (List.cons.inj heq).1 hbackslash
    · rename_i heq
      exact absurd (List.cons.inj heq).1 hbackslash
    · rename_i heq
      exact absurd (List.cons.inj heq).1 hbackslash
    · rename_i heq
      cases heq
      rw [if_neg (Nat.not_lt.mpr hcontrol), ih]
  | letter hletter _ ih =>
    simp only [letterEscapes, List.mem_cons, Prod.mk.injEq, List.not_mem_nil, or_false] at hletter
    rcases hletter with ⟨rfl, -⟩ | ⟨rfl, -⟩ | ⟨rfl, -⟩ | ⟨rfl, -⟩ | ⟨rfl, -⟩ | ⟨rfl, -⟩ |
      ⟨rfl, -⟩ | ⟨rfl, -⟩ <;> simp [skipString, ih]
  | number hdigits _ ih => exact skipString_number hdigits ih
  | halves hhigh hlow hh hh' hl hl' hc _ ih =>
    have := skipString_number hhigh (skipString_number hlow ih)
    simpa using this

end Strings

/-! ### Kinds of values -/

/-- A kind of value, as its first character tells it. -/
inductive Kind where
  | null
  | bool (b : Bool)
  | number
  | string
  | array
  | object
  deriving DecidableEq, Repr

/-- The kind of a value. -/
def kind : Json → Kind
  | .null => .null
  | .bool b => .bool b
  | .number _ => .number
  | .string _ => .string
  | .array _ => .array
  | .object _ => .object

/-- The kind of the values that begin with a character. -/
def Kind.ofHead? (c : Char) : Option Kind :=
  match c with
  | 'n' => some .null
  | 't' => some (.bool true)
  | 'f' => some (.bool false)
  | '"' => some .string
  | '[' => some .array
  | '\x7b' => some .object
  | c => if c = '-' ∨ c.isDigit then some .number else none

theorem Kind.ofHead?_of_number {c : Char} (h : c = '-' ∨ c.isDigit = true) :
    ofHead? c = some .number := by
  have hne : ∀ d : Char, d ≠ '-' → d.isDigit = false → c ≠ d := by
    intro d hminus hd
    rcases h with rfl | hc
    · exact hminus.symm
    · exact ne_of_isDigit hc hd
  unfold ofHead?
  split
  · exact absurd rfl (hne 'n' (by decide) (by decide))
  · exact absurd rfl (hne 't' (by decide) (by decide))
  · exact absurd rfl (hne 'f' (by decide) (by decide))
  · exact absurd rfl (hne '"' (by decide) (by decide))
  · exact absurd rfl (hne '[' (by decide) (by decide))
  · exact absurd rfl (hne '\x7b' (by decide) (by decide))
  · rw [if_pos h]

/-- The first character of a value tells its kind. -/
theorem Value.exists_eq_cons {t r : Text} {v : Json} (h : Value t v r) :
    ∃ c u, t = c :: u ∧ Kind.ofHead? c = some v.kind := by
  cases h with
  | number hnumber =>
    obtain ⟨c, u, rfl, hc⟩ := hnumber.exists_eq_cons
    exact ⟨c, u, rfl, Kind.ofHead?_of_number hc⟩
  | _ => exact ⟨_, _, rfl, rfl⟩

/-! ### Passing over values -/

section Skipping

variable {t r u : Text} {frames : List Frame} {f : Frame}

/-- Passes over what the open brackets still hold, behind a value or, when
`separated` is false, behind the bracket that opens the innermost of them. -/
def goOn (separated : Bool) (frames : List Frame) (t : Text) : Except Fault Text :=
  match nextValue separated frames t with
  | .error e => .error e
  | .ok (none, rest) => .ok rest
  | .ok (some frames, rest) => skipIn frames rest

theorem skipIn_eq (frames : List Frame) (t : Text) :
    skipIn frames t =
      match skipHead t with
      | .error e => .error e
      | .ok (head, rest) => goOn head.isNone (head.toList ++ frames) rest := by
  rw [skipIn]
  split
  · rename_i heq
    rw [heq]
  · rename_i heq
    rw [heq]
    dsimp only [goOn]
    split
    · rename_i heq
      rw [heq]
    · rename_i heq
      rw [heq]
    · rename_i heq
      rw [heq]

theorem skipIn_of_skipHead {head : Option Frame} (h : skipHead t = .ok (head, r)) :
    skipIn frames t = goOn head.isNone (head.toList ++ frames) r := by
  rw [skipIn_eq, h]

theorem trimStart_trimStart (t : Text) : trimStart (trimStart t) = trimStart t :=
  List.dropWhile_idempotent isSpace t

theorem skipIn_trimStart (t : Text) : skipIn frames (trimStart t) = skipIn frames t := by
  rw [skipIn_eq, skipIn_eq, skipHead, skipHead, trimStart_trimStart]

theorem goOn_close {separated : Bool} (h : trimStart t = f.close :: r) :
    goOn separated (f :: frames) t = goOn true frames r := by
  have hcomma : f.close ≠ ',' := by cases f <;> decide
  simp [goOn, nextValue, h, hcomma]

theorem goOn_comma (h : trimStart t = ',' :: u) (hkey : skipKey f u = .ok r) :
    goOn true (f :: frames) t = skipIn (f :: frames) r := by
  simp [goOn, nextValue, h, hkey, Except.map]

theorem goOn_first {c : Char} (h : trimStart t = c :: u) (hclose : c ≠ f.close)
    (hkey : skipKey f (c :: u) = .ok r) :
    goOn false (f :: frames) t = skipIn (f :: frames) r := by
  simp [goOn, nextValue, h, hclose, hkey, Except.map]

theorem skipColon_eq (h : trimStart t = ':' :: r) : skipColon t = .ok r := by
  simp only [skipColon, h]

theorem skipKey_object {q k w : Text} (hquote : trimStart t = '"' :: q) (hkey : Quoted q k u)
    (hcolon : trimStart u = ':' :: w) : skipKey .object t = .ok w := by
  simp only [skipKey, hquote, hkey.skipString_eq, skipColon_eq hcolon]

theorem skipHead_number {n : Numeral} (h : Number t n r) : skipHead t = .ok (none, r) := by
  have htrim := (Value.number h).trimStart_eq
  obtain ⟨f, hfigures, -⟩ := h.readFigures_eq .invalidNumber
  obtain ⟨c, u, rfl, hc⟩ := h.exists_eq_cons
  have hkind := Kind.ofHead?_of_number hc
  unfold skipHead
  rw [htrim]
  dsimp only
  split
  · cases hkind
  · cases hkind
  · cases hkind
  · cases hkind
  · cases hkind
  · cases hkind
  · rw [if_pos hc, hfigures]
    rfl

/-- The items of an array do not begin with the closing bracket. -/
theorem Items.exists_eq_cons {items : List Json} (h : Items t items r) :
    ∃ c u, trimStart t = c :: u ∧ c ≠ ']' := by
  have hvalue : ∃ v u, Value (trimStart t) v u := by
    cases h with
    | last hvalue _ => exact ⟨_, _, hvalue⟩
    | more hvalue _ _ => exact ⟨_, _, hvalue⟩
  obtain ⟨v, u, hvalue⟩ := hvalue
  obtain ⟨c, u, hcons, hkind⟩ := hvalue.exists_eq_cons
  refine ⟨c, u, hcons, ?_⟩
  rintro rfl
  cases hkind

/-- The members of an object begin with a quote. -/
theorem Members.exists_eq_cons {ms : List (Text × Json)} (h : Members t ms r) :
    ∃ u, trimStart t = '"' :: u := by
  cases h with
  | last hmember _ =>
    cases hmember with
    | mk hquote _ _ _ => exact ⟨_, hquote⟩
  | more hmember _ _ =>
    cases hmember with
    | mk hquote _ _ _ => exact ⟨_, hquote⟩

mutual

theorem Value.skipIn_eq : ∀ {t : Text} {v : Json} {r : Text}, Value t v r →
    ∀ frames, skipIn frames t = goOn true frames r
  | _, _, r, .null, frames => by
    have hhead : skipHead ("null".toList ++ r) = .ok (none, r) := rfl
    exact skipIn_of_skipHead hhead
  | _, _, r, .boolTrue, frames => by
    have hhead : skipHead ("true".toList ++ r) = .ok (none, r) := rfl
    exact skipIn_of_skipHead hhead
  | _, _, r, .boolFalse, frames => by
    have hhead : skipHead ("false".toList ++ r) = .ok (none, r) := rfl
    exact skipIn_of_skipHead hhead
  | _, _, _, .number h, frames => skipIn_of_skipHead (skipHead_number h)
  | _, _, r, .string (t := t) h, frames => by
    have hhead : skipHead ('"' :: t) = (skipString t).map (none, ·) := rfl
    rw [h.skipString_eq] at hhead
    exact skipIn_of_skipHead hhead
  | _, _, _, .emptyArray (t := t) h, frames => by
    have hhead : skipHead ('[' :: t) = .ok (some .list, t) := rfl
    rw [skipIn_of_skipHead hhead]
    exact goOn_close h
  | _, _, r, .array (t := t) h, frames => by
    have hhead : skipHead ('[' :: t) = .ok (some .list, t) := rfl
    obtain ⟨c, u, hcons, hclose⟩ := h.exists_eq_cons
    rw [skipIn_of_skipHead hhead]
    calc goOn false (.list :: frames) t = skipIn (.list :: frames) (c :: u) :=
          goOn_first hcons hclose rfl
      _ = goOn true frames r := by rw [← hcons, skipIn_trimStart, h.skipIn_eq]
  | _, _, _, .emptyObject (t := t) h, frames => by
    have hhead : skipHead ('\x7b' :: t) = .ok (some .object, t) := rfl
    rw [skipIn_of_skipHead hhead]
    exact goOn_close h
  | _, _, r, .object (t := t) h, frames => by
    have hhead : skipHead ('\x7b' :: t) = .ok (some .object, t) := rfl
    obtain ⟨u, hcons⟩ := h.exists_eq_cons
    obtain ⟨w, hkey, hskip⟩ := h.skipIn_eq frames
    rw [skipIn_of_skipHead hhead]
    calc goOn false (.object :: frames) t = skipIn (.object :: frames) w := by
          refine goOn_first hcons (by decide) ?_
          rw [← hcons, ← hkey, skipKey, skipKey, trimStart_trimStart]
      _ = goOn true frames r := hskip

theorem Items.skipIn_eq : ∀ {t : Text} {items : List Json} {r : Text}, Items t items r →
    ∀ frames, skipIn (.list :: frames) t = goOn true frames r
  | _, _, _, .last hvalue hclose, frames => by
    rw [← skipIn_trimStart, hvalue.skipIn_eq, goOn_close hclose]
  | _, _, _, .more hvalue hcomma hrest, frames => by
    rw [← skipIn_trimStart, hvalue.skipIn_eq, goOn_comma hcomma rfl, hrest.skipIn_eq]

theorem Members.skipIn_eq : ∀ {t : Text} {ms : List (Text × Json)} {r : Text}, Members t ms r →
    ∀ frames, ∃ w, skipKey .object t = .ok w ∧ skipIn (.object :: frames) w = goOn true frames r
  | _, _, _, .last (.mk hquote hkey hcolon hvalue) hclose, frames => by
    refine ⟨_, skipKey_object hquote hkey hcolon, ?_⟩
    rw [← skipIn_trimStart, hvalue.skipIn_eq, goOn_close hclose]
  | _, _, _, .more (.mk hquote hkey hcolon hvalue) hcomma hrest, frames => by
    obtain ⟨w, hw, hskip⟩ := hrest.skipIn_eq frames
    refine ⟨_, skipKey_object hquote hkey hcolon, ?_⟩
    rw [← skipIn_trimStart, hvalue.skipIn_eq, goOn_comma hcomma hw, hskip]

end

/-- A value is passed over, with the white space before it. -/
theorem skip_eq {v : Json} (h : Value (trimStart t) v r) : skip t = .ok r := by
  rw [skip, ← skipIn_trimStart, h.skipIn_eq]
  rfl

end Skipping

end WatInlay.Json
