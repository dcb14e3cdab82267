/-
Reading a configuration file.

The file is JSON: an object with any of the fields of a configuration, in any
order and among others that are passed over, or a list of the fields in their
order. A field may stand once. The first fault in the text is the one that is
reported, and a value of the wrong kind is a fault where it stands.
-/

import WatInlay.Config
import WatInlay.Json.Reader.Mismatch

namespace WatInlay.Config

open Json

/-! ### Values -/

/-- A string; `expected` names it in the fault. -/
def readText (expected : Text) (t : Text) : Except Fault (Text × Text) :=
  match trimStart t with
  | [] => .error .endInValue
  | '"' :: r => readString r
  | r => .error (mismatch expected r)

/-- Whether another item of a list follows, and the text from it on or after
the closing bracket. -/
def nextItem (first : Bool) (t : Text) : Except Fault (Bool × Text) :=
  match trimStart t with
  | [] => .error .endInList
  | ']' :: r => .ok (false, r)
  | c :: r =>
    if first then .ok (true, c :: r)
    else if c = ',' then
      match trimStart r with
      | [] => .error .endInValue
      | ']' :: _ => .error .trailingComma
      | r => .ok (true, r)
    else .error .expectedCommaOrBracket

theorem length_readText_lt {expected t s rest : Text} (h : readText expected t = .ok (s, rest)) :
    rest.length < t.length := by
  unfold readText at h
  have := length_trimStart_le t
  split at h
  · cases h
  · rename_i r hr
    rw [hr] at this
    have := length_readString_lt h
    simp at *
    omega
  · cases h

theorem length_nextItem_le {first more : Bool} {t rest : Text}
    (h : nextItem first t = .ok (more, rest)) : rest.length ≤ t.length := by
  unfold nextItem at h
  have := length_trimStart_le t
  split at h
  · cases h
  · rename_i r hr
    cases h
    rw [hr] at this
    simp only [List.length_cons] at this
    omega
  · rename_i c r _ hr
    rw [hr] at this
    simp only [List.length_cons] at this
    split at h
    · cases h
      simpa using this
    · split at h
      · have := length_trimStart_le r
        split at h <;> cases h
        omega
      · cases h

/-- The strings of a list whose opening bracket has been read. -/
def readTexts (first : Bool) (t : Text) : Except Fault (List Text × Text) :=
  match _h : nextItem first t with
  | .error e => .error e
  | .ok (false, rest) => .ok ([], rest)
  | .ok (true, r) =>
    match _h' : readText "a string".toList r with
    | .error e => .error e
    | .ok (s, r) =>
      match readTexts false r with
      | .error e => .error e
      | .ok (ss, rest) => .ok (s :: ss, rest)
termination_by t.length
decreasing_by
  have := length_nextItem_le _h
  have := length_readText_lt _h'
  omega

theorem length_readTexts_le {first : Bool} {t rest : Text} {ss : List Text}
    (h : readTexts first t = .ok (ss, rest)) : rest.length ≤ t.length := by
  fun_induction readTexts first t generalizing ss with
  | case1 => cases h
  | case2 first t r hn =>
    cases h
    exact length_nextItem_le hn
  | case3 => cases h
  | case4 => cases h
  | case5 first t r hn s r' hs ss' rest' hr ih =>
    cases h
    have := length_nextItem_le hn
    have := length_readText_lt hs
    have := ih hr
    omega

/-- A list of strings. -/
def readTextList (t : Text) : Except Fault (List Text × Text) :=
  match trimStart t with
  | [] => .error .endInValue
  | '[' :: r => readTexts true r
  | r => .error (mismatch "a sequence".toList r)

theorem length_readTextList_lt {t rest : Text} {ss : List Text}
    (h : readTextList t = .ok (ss, rest)) : rest.length < t.length := by
  unfold readTextList at h
  have := length_trimStart_le t
  split at h
  · cases h
  · rename_i r hr
    rw [hr] at this
    have := length_readTexts_le h
    simp at *
    omega
  · cases h

/-- Reads the value of a field into the settings. -/
def readField (s : Settings) (f : Field) (t : Text) : Except Fault (Settings × Text) :=
  match f with
  | .compiler => (readText "a string".toList t).map fun (v, r) => ({ s with compiler := v }, r)
  | .defaultOptions =>
    (readTextList t).map fun (v, r) => ({ s with defaultOptions := v }, r)
  | .scratchDir =>
    (readText "path string".toList t).map fun (v, r) => ({ s with scratchDir := v }, r)
  | .scratchStem =>
    (readText "a string".toList t).map fun (v, r) => ({ s with scratchStem := v }, r)

theorem length_readField_lt {s s' : Settings} {f : Field} {t rest : Text}
    (h : readField s f t = .ok (s', rest)) : rest.length < t.length := by
  cases f
  all_goals
    obtain ⟨⟨v, r⟩, hr, hp⟩ := exists_of_map_eq_ok h
    cases hp
  · exact length_readText_lt hr
  · exact length_readTextList_lt hr
  · exact length_readText_lt hr
  · exact length_readText_lt hr

/-! ### The object form -/

/-- Whether another member of an object follows, and the text from its key on,
after the opening quote, or after the closing brace. -/
def nextKey (first : Bool) (t : Text) : Except Fault (Bool × Text) :=
  let key (t : Text) : Except Fault (Bool × Text) :=
    match t with
    | [] => .error .endInValue
    | '"' :: r => .ok (true, r)
    | '\x7d' :: _ => .error .trailingComma
    | _ => .error .keyNotString
  match trimStart t with
  | [] => .error .endInObject
  | '\x7d' :: r => .ok (false, r)
  | c :: r =>
    if first then key (c :: r)
    else if c = ',' then key (trimStart r)
    else .error .expectedCommaOrBrace

theorem length_nextKey_le {first more : Bool} {t rest : Text}
    (h : nextKey first t = .ok (more, rest)) : rest.length ≤ t.length := by
  unfold nextKey at h
  have := length_trimStart_le t
  split at h
  · cases h
  · rename_i r hr
    cases h
    rw [hr] at this
    simp only [List.length_cons] at this
    omega
  · rename_i c r _ hr
    rw [hr] at this
    simp only [List.length_cons] at this
    dsimp only at h
    split at h
    · split at h <;> cases h
      rename_i heq
      have := congrArg List.length heq
      simp at this
      omega
    · split at h
      · have := length_trimStart_le r
        split at h <;> cases h
        rename_i heq
        have := congrArg List.length heq
        simp at this
        omega
      · cases h

/-- Reads a member into the settings, from behind its key. A field may stand once, and
behind any other name the value is passed over. -/
def readMember (s : Settings) (key t : Text) : Except Fault (Settings × Text) :=
  match Field.ofName? key with
  | some f =>
    if s.has f then .error (.duplicateField f.name)
    else
      match skipColon t with
      | .error e => .error e
      | .ok r => readField s f r
  | none =>
    match skipColon t with
    | .error e => .error e
    | .ok r => (skip r).map (s, ·)

theorem length_readMember_lt {s s' : Settings} {key t rest : Text}
    (h : readMember s key t = .ok (s', rest)) : rest.length < t.length := by
  unfold readMember at h
  split at h
  · split at h
    · cases h
    · split at h
      · cases h
      · rename_i hc
        have := length_skipColon_lt hc
        have := length_readField_lt h
        omega
  · split at h
    · cases h
    · rename_i hc
      obtain ⟨r, hr, hp⟩ := exists_of_map_eq_ok h
      cases hp
      have := length_skipColon_lt hc
      have := length_skipIn_lt hr
      omega

/-- The members of an object whose opening brace has been read. -/
def readMembers (s : Settings) (first : Bool) (t : Text) : Except Fault (Settings × Text) :=
  match _hk : nextKey first t with
  | .error e => .error e
  | .ok (false, rest) => .ok (s, rest)
  | .ok (true, r) =>
    match _hs : readString r with
    | .error e => .error e
    | .ok (key, r) =>
      match _hm : readMember s key r with
      | .error e => .error e
      | .ok (s, r) => readMembers s false r
termination_by t.length
decreasing_by
  have := length_nextKey_le _hk
  have := length_readString_lt _hs
  have := length_readMember_lt _hm
  omega

/-! ### The list form -/

/-- The end of a list that can hold no more fields. -/
def readListEnd (t : Text) : Except Fault Text :=
  match trimStart t with
  | [] => .error .endInList
  | ']' :: r => .ok r
  | ',' :: r =>
    match trimStart r with
    | ']' :: _ => .error .trailingComma
    | _ => .error .trailingCharacters
  | _ => .error .trailingCharacters

/-- The given fields in order, as items of a list whose opening bracket has been
read; the list may end early. -/
def readItems (s : Settings) (first : Bool) : List Field → Text → Except Fault (Settings × Text)
  | [], t => (readListEnd t).map (s, ·)
  | f :: fs, t => do
    let (more, r) ← nextItem first t
    if more then
      let (s, r) ← readField s f r
      readItems s false fs r
    else return (s, r)

/-! ### Whole files -/

/-- The settings that a text writes, and the text after them. -/
def readSettings (t : Text) : Except Fault (Settings × Text) :=
  match trimStart t with
  | [] => .error .endInValue
  | '\x7b' :: r => readMembers {} true r
  | '[' :: r => readItems {} true Field.all r
  | r => .error (mismatch "struct ToolConfig".toList r)

/-- The configuration that a text writes. -/
def ofText (t : Text) : Except Fault Config := do
  let (s, rest) ← readSettings t
  if (trimStart rest).isEmpty then return s.config else .error .trailingCharacters

end WatInlay.Config
