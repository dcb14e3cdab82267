/-
Reading strings, which begin after their opening quote and end with the next
quote that no backslash escapes.

`readString` decodes; `skipString` only passes over.
-/

import WatInlay.Json.Reader.Blank

namespace WatInlay.Json

/-- The value of a hexadecimal digit of either case. -/
def hexValue? (c : Char) : Option Nat :=
  if c.isDigit then some (c.toNat - '0'.toNat)
  else if 'a' ≤ c ∧ c ≤ 'f' then some (c.toNat - 'a'.toNat + 10)
  else if 'A' ≤ c ∧ c ≤ 'F' then some (c.toNat - 'A'.toNat + 10)
  else none

/-- The number that four hexadecimal digits write. -/
def readHex (t : Text) : Except Fault (Nat × Text) :=
  if Text.size t < 4 then .error .endInString
  else
    match t with
    | a :: b :: c :: d :: rest =>
      match hexValue? a, hexValue? b, hexValue? c, hexValue? d with
      | some a, some b, some c, some d => .ok (((a * 16 + b) * 16 + c) * 16 + d, rest)
      | _, _, _, _ => .error .invalidEscape
    | _ => .error .invalidEscape

/-- The second half of a character beyond U+FFFF, with the escape that
introduces it. -/
def readLowHalf : Text → Except Fault (Nat × Text)
  | [] => .error .endInString
  | ['\\'] => .error .endInString
  | '\\' :: 'u' :: t => do
    let (n, rest) ← readHex t
    if 0xDC00 ≤ n ∧ n ≤ 0xDFFF then return (n, rest) else .error .loneSurrogate
  | _ => .error .unfinishedSurrogate

/-- The character that an escape stands for, after its backslash. -/
def readEscape : Text → Except Fault (Char × Text)
  | [] => .error .endInString
  | '"' :: t => .ok ('"', t)
  | '\\' :: t => .ok ('\\', t)
  | '/' :: t => .ok ('/', t)
  | 'b' :: t => .ok ('\x08', t)
  | 'f' :: t => .ok ('\x0c', t)
  | 'n' :: t => .ok ('\n', t)
  | 'r' :: t => .ok ('\r', t)
  | 't' :: t => .ok ('\t', t)
  | 'u' :: t => do
    let (n, rest) ← readHex t
    if 0xDC00 ≤ n ∧ n ≤ 0xDFFF then .error .loneSurrogate
    else if 0xD800 ≤ n ∧ n ≤ 0xDBFF then do
      let (low, rest) ← readLowHalf rest
      return (Char.ofNat (0x10000 + (n - 0xD800) * 0x400 + (low - 0xDC00)), rest)
    else return (Char.ofNat n, rest)
  | _ => .error .invalidEscape

theorem length_readHex_le {t rest : Text} {n : Nat} (h : readHex t = .ok (n, rest)) :
    rest.length ≤ t.length := by
  unfold readHex at h
  repeat' split at h
  all_goals cases h
  simp
  omega

theorem length_readLowHalf_le {t rest : Text} {n : Nat} (h : readLowHalf t = .ok (n, rest)) :
    rest.length ≤ t.length := by
  unfold readLowHalf at h
  split at h <;> try cases h
  obtain ⟨⟨m, r⟩, hr, h⟩ := exists_of_bind_eq_ok h
  have := length_readHex_le hr
  dsimp only at h
  split at h <;> cases h
  simp
  omega

theorem length_readEscape_le {t rest : Text} {c : Char} (h : readEscape t = .ok (c, rest)) :
    rest.length ≤ t.length := by
  unfold readEscape at h
  split at h
  case h_10 =>
    obtain ⟨⟨m, r⟩, hr, h⟩ := exists_of_bind_eq_ok h
    have := length_readHex_le hr
    dsimp only at h
    split at h
    · cases h
    · split at h
      · obtain ⟨⟨low, r'⟩, hl, h⟩ := exists_of_bind_eq_ok h
        have := length_readLowHalf_le hl
        obtain ⟨-, rfl⟩ := Prod.mk.inj (Except.ok.inj h)
        simp
        omega
      · obtain ⟨-, rfl⟩ := Prod.mk.inj (Except.ok.inj h)
        simp
        omega
  all_goals first
    | cases h; done
    | obtain ⟨-, rfl⟩ := Prod.mk.inj (Except.ok.inj h); simp

/-- The string whose opening quote has been read. -/
def readString : Text → Except Fault (Text × Text)
  | [] => .error .endInString
  | c :: t =>
    if c = '"' then .ok ([], t)
    else if c = '\\' then
      match _h : readEscape t with
      | .error e => .error e
      | .ok (d, r) =>
        match readString r with
        | .error e => .error e
        | .ok (s, rest) => .ok (d :: s, rest)
    else if c.toNat < 0x20 then .error .controlCharacter
    else
      match readString t with
      | .error e => .error e
      | .ok (s, rest) => .ok (c :: s, rest)
termination_by t => t.length
decreasing_by
  · have := length_readEscape_le _h
    simp
    omega
  · simp

theorem length_readString_lt {t s rest : Text} (h : readString t = .ok (s, rest)) :
    rest.length < t.length := by
  fun_induction readString t generalizing s with
  | case1 => cases h
  | case2 t => cases h; simp
  | case3 => cases h
  | case4 => cases h
  | case5 t d r he s' rest' hr _ ih =>
    cases h
    have := ih hr
    have := length_readEscape_le he
    simp
    omega
  | case6 => cases h
  | case7 c t _ _ _ e hr ih => cases h
  | case8 c t _ _ _ s' rest' hr ih =>
    cases h
    have := ih hr
    simp
    omega

/-- The text after a string whose opening quote has been read. Escapes must be
well formed, but halves of a character need not make one. -/
def skipString : Text → Except Fault Text
  | [] => .error .endInString
  | '"' :: t => .ok t
  | '\\' :: 'u' :: t =>
    match _h : readHex t with
    | .error e => .error e
    | .ok (_, rest) => skipString rest
  | ['\\'] => .error .endInString
  | '\\' :: c :: t => if c ∈ "\"\\/bfnrt".toList then skipString t else .error .invalidEscape
  | c :: t => if c.toNat < 0x20 then .error .controlCharacter else skipString t
termination_by t => t.length
decreasing_by
  · have := length_readHex_le _h
    simp only [List.length_cons]
    omega
  · simp only [List.length_cons]
    omega
  · simp only [List.length_cons]
    omega

theorem length_skipString_lt {t rest : Text} (h : skipString t = .ok rest) :
    rest.length < t.length := by
  fun_induction skipString t with
  | case1 => cases h
  | case2 t => cases h; simp
  | case3 t e he => cases h
  | case4 t n r hr ih =>
    have := ih h
    have := length_readHex_le hr
    simp
    omega
  | case5 => cases h
  | case6 c t _ _ ih =>
    have := ih h
    simp
    omega
  | case7 => cases h
  | case8 => cases h
  | case9 c t _ _ _ _ _ ih =>
    have := ih h
    simp
    omega

end WatInlay.Json
