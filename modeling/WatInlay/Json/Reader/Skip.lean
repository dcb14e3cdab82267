/-
Passing over values of any depth.

`skip` keeps the brackets that are still open on a list, innermost first, and
reads one scalar, bracket, comma or key at a time.
-/

import WatInlay.Json.Reader.Number
import WatInlay.Json.Reader.Quoted

namespace WatInlay.Json

/-! ### Names -/

/-- The text after `word`, whose first character has been read. -/
def skipIdent : Text → Text → Except Fault Text
  | [], t => .ok t
  | _ :: _, [] => .error .endInValue
  | w :: word, c :: t => if w = c then skipIdent word t else .error .expectedIdent

theorem length_skipIdent_le {word t rest : Text} (h : skipIdent word t = .ok rest) :
    rest.length ≤ t.length := by
  fun_induction skipIdent word t with
  | case1 => cases h; exact Nat.le_refl _
  | case2 => cases h
  | case3 _ _ _ ih =>
    have := ih h
    simp
    omega
  | case4 => cases h

/-! ### Passing over values -/

/-- An open bracket. -/
inductive Frame where
  | list
  | object
  deriving DecidableEq, Repr

namespace Frame

/-- The bracket that closes a frame. -/
def close : Frame → Char
  | list => ']'
  | object => '\x7d'

/-- The fault when the text ends inside a frame. -/
def atEnd : Frame → Fault
  | list => .endInList
  | object => .endInObject

/-- The fault when neither a comma nor the closing bracket follows a value. -/
def unseparated : Frame → Fault
  | list => .expectedCommaOrBracket
  | object => .expectedCommaOrBrace

end Frame

/-- The text after a colon. -/
def skipColon (t : Text) : Except Fault Text :=
  match trimStart t with
  | [] => .error .endInObject
  | ':' :: r => .ok r
  | _ => .error .expectedColon

theorem length_skipColon_lt {t rest : Text} (h : skipColon t = .ok rest) :
    rest.length < t.length := by
  unfold skipColon at h
  have := length_trimStart_le t
  split at h
  · cases h
  · rename_i hr
    cases h
    rw [hr] at this
    simp only [List.length_cons] at this
    omega
  · cases h

/-- The text after the key and the colon that come before the next value. -/
def skipKey : Frame → Text → Except Fault Text
  | .list, t => .ok t
  | .object, t =>
    match trimStart t with
    | [] => .error .endInObject
    | '"' :: r =>
      match skipString r with
      | .error e => .error e
      | .ok r => skipColon r
    | _ => .error .keyNotString

theorem length_skipKey_le {f : Frame} {t rest : Text} (h : skipKey f t = .ok rest) :
    rest.length ≤ t.length := by
  cases f with
  | list => cases h; exact Nat.le_refl _
  | object =>
    simp only [skipKey] at h
    have := length_trimStart_le t
    split at h
    · cases h
    · rename_i r hr
      rw [hr] at this
      split at h
      · cases h
      · rename_i r' hs
        have := length_skipString_lt hs
        have := length_skipColon_lt h
        simp at *
        omega
    · cases h

/-- What comes after a value, or after an opening bracket when `separated` is
false: closing brackets, and a comma and a key before the next value. `none`
in place of the brackets when the outermost value is complete. -/
def nextValue : Bool → List Frame → Text → Except Fault (Option (List Frame) × Text)
  | _, [], t => .ok (none, t)
  | separated, f :: fs, t =>
    match trimStart t with
    | [] => .error f.atEnd
    | c :: r =>
      if c = ',' ∧ separated then (skipKey f r).map fun r => (some (f :: fs), r)
      else if c = f.close then nextValue true fs r
      else if separated then .error f.unseparated
      else (skipKey f (c :: r)).map fun r => (some (f :: fs), r)

theorem length_nextValue_le {separated : Bool} {fs : List Frame} {t rest : Text}
    {o : Option (List Frame)} (h : nextValue separated fs t = .ok (o, rest)) :
    rest.length ≤ t.length := by
  induction fs generalizing separated t with
  | nil => cases h; exact Nat.le_refl _
  | cons f fs ih =>
    simp only [nextValue] at h
    have := length_trimStart_le t
    split at h
    · cases h
    · rename_i c r hr
      rw [hr] at this
      simp only [List.length_cons] at this
      split at h
      · obtain ⟨r', hk, hp⟩ := exists_of_map_eq_ok h
        cases hp
        have := length_skipKey_le hk
        omega
      · split at h
        · have := ih h
          omega
        · split at h
          · cases h
          · obtain ⟨r', hk, hp⟩ := exists_of_map_eq_ok h
            cases hp
            have := length_skipKey_le hk
            simp at this
            omega

/-- One scalar or one opening bracket, and the text after it. -/
def skipHead (t : Text) : Except Fault (Option Frame × Text) :=
  match trimStart t with
  | [] => .error .endInValue
  | c :: r =>
    match c with
    | 'n' => (skipIdent "ull".toList r).map (none, ·)
    | 't' => (skipIdent "rue".toList r).map (none, ·)
    | 'f' => (skipIdent "alse".toList r).map (none, ·)
    | '"' => (skipString r).map (none, ·)
    | '[' => .ok (some .list, r)
    | '\x7b' => .ok (some .object, r)
    | c =>
      if c = '-' ∨ c.isDigit then (readFigures .invalidNumber (c :: r)).map fun p => (none, p.2)
      else .error .expectedValue

theorem length_skipHead_lt {t rest : Text} {o : Option Frame}
    (h : skipHead t = .ok (o, rest)) : rest.length < t.length := by
  unfold skipHead at h
  have := length_trimStart_le t
  split at h
  · cases h
  · rename_i c r hr
    rw [hr] at this
    simp only [List.length_cons] at this
    have ident : ∀ word : Text, (skipIdent word r).map (none, ·) = .ok (o, rest) →
        rest.length ≤ r.length := by
      intro word h
      obtain ⟨r', hw, hp⟩ := exists_of_map_eq_ok h
      cases hp
      exact length_skipIdent_le hw
    split at h
    · have := ident _ h
      omega
    · have := ident _ h
      omega
    · have := ident _ h
      omega
    · obtain ⟨r', hw, hp⟩ := exists_of_map_eq_ok h
      cases hp
      have := length_skipString_lt hw
      omega
    · cases h
      omega
    · cases h
      omega
    · split at h
      · obtain ⟨p, hw, hp⟩ := exists_of_map_eq_ok h
        cases hp
        have := length_readFigures_lt hw
        simp at this
        omega
      · cases h

/-- The text after the value at the head of `t` and after everything that the
open brackets still hold. -/
def skipIn (frames : List Frame) (t : Text) : Except Fault Text :=
  match _h : skipHead t with
  | .error e => .error e
  | .ok (head, r) =>
    match _h' : nextValue head.isNone (head.toList ++ frames) r with
    | .error e => .error e
    | .ok (none, rest) => .ok rest
    | .ok (some frames, rest) => skipIn frames rest
termination_by t.length
decreasing_by
  have := length_skipHead_lt _h
  have := length_nextValue_le _h'
  omega

theorem length_skipIn_lt {frames : List Frame} {t rest : Text} (h : skipIn frames t = .ok rest) :
    rest.length < t.length := by
  fun_induction skipIn frames t with
  | case1 => cases h
  | case2 => cases h
  | case3 frames t head r hh rest' hn =>
    cases h
    have := length_skipHead_lt hh
    have := length_nextValue_le hn
    omega
  | case4 frames t head r hh frames' rest' hn ih =>
    have := ih h
    have := length_skipHead_lt hh
    have := length_nextValue_le hn
    omega

/-- The text after the value at the head of `t`. -/
def skip (t : Text) : Except Fault Text :=
  skipIn [] t

end WatInlay.Json
