/-
The meaning of what is printed.

Both texts of a value are documents with that value (`document_compact` beside
`document_pretty`), and a text is a document with one value at most
(`Document.unique`): its first character tells the kind of a value, and what
follows is taken apart in one way. So either text of a value says this value and
no other one (`Prints.document_iff`).
-/

import WatInlay.Proofs.Reading

namespace WatInlay.Json

/-! ### The text without white space -/

/-- A key in quotes, a colon and a value. -/
theorem Value.memberTight {t r : Text} {v : Json} (h : Value t v r) (k : Text) :
    Member (quote k ++ ':' :: t) k v r := by
  refine .mk ?_ (quoted_flatMap_escape k (':' :: t)) rfl (by rwa [h.trimStart_eq])
  rw [quote, List.append_assoc]
  rfl

theorem ends_close {f : Frame} (t : Text) : Ends (f.close :: t) := by
  cases f <;> exact ends_cons (by decide) t

mutual

/-- What is printed of a value is that value. -/
theorem value_compact : ∀ (v : Json) {r : Text}, Ends r → Value (v.compact ++ r) v r
  | .null, r, _ => by
    rw [compact]
    exact .null
  | .bool true, r, _ => by
    rw [compact]
    exact .boolTrue
  | .bool false, r, _ => by
    rw [compact]
    exact .boolFalse
  | .number m, r, hr => by
    rw [compact]
    exact .number (m.number_text hr)
  | .string s, r, _ => by
    rw [compact, quote, List.append_assoc]
    exact .string (quoted_flatMap_escape s r)
  | .array [], r, _ => by
    rw [compact]
    exact .emptyArray rfl
  | .array (v :: vs), r, _ => by
    rw [compact, List.append_assoc]
    exact .array (items_compactItems (v :: vs) (List.cons_ne_nil v vs) r)
  | .object [], r, _ => by
    rw [compact]
    exact .emptyObject rfl
  | .object (m :: ms), r, _ => by
    rw [compact, List.append_assoc]
    exact .object (members_compactMembers (m :: ms) (List.cons_ne_nil m ms) r)

/-- So are the items of an array, up to the closing bracket. -/
theorem items_compactItems : ∀ (vs : List Json), vs ≠ [] → ∀ r : Text,
    Items (compactItems vs ++ ']' :: r) vs r
  | [], hne, _ => absurd rfl hne
  | [v], _, r => by
    have hvalue := value_compact v (ends_close (f := .list) r)
    rw [← hvalue.trimStart_eq] at hvalue
    rw [compactItems]
    exact .last hvalue rfl
  | v :: w :: vs, _, r => by
    have hvalue := value_compact v (ends_comma (compactItems (w :: vs) ++ ']' :: r))
    rw [← hvalue.trimStart_eq] at hvalue
    rw [compactItems, List.append_assoc]
    exact .more hvalue rfl (items_compactItems (w :: vs) (List.cons_ne_nil w vs) r)

/-- So are the members of an object, up to the closing brace. -/
theorem members_compactMembers : ∀ (ms : List (Text × Json)), ms ≠ [] → ∀ r : Text,
    Members (compactMembers ms ++ '\x7d' :: r) ms r
  | [], hne, _ => absurd rfl hne
  | [(k, v)], _, r => by
    have hvalue := value_compact v (ends_close (f := .object) r)
    rw [compactMembers, List.append_assoc]
    exact .last (hvalue.memberTight k) rfl
  | (k, v) :: (k', w) :: ms, _, r => by
    have hvalue := value_compact v (ends_comma (compactMembers ((k', w) :: ms) ++ '\x7d' :: r))
    rw [compactMembers, List.append_assoc, List.append_assoc]
    exact .more (hvalue.memberTight k) rfl
      (members_compactMembers ((k', w) :: ms) (List.cons_ne_nil _ ms) r)

end

/-- The text of a value without white space is a document with that value. -/
theorem document_compact (v : Json) : Document v.compact v := by
  have hvalue : Value (v.compact ++ []) v [] := value_compact v (by simp [Ends])
  rw [List.append_nil] at hvalue
  exact ⟨[], by rwa [hvalue.trimStart_eq], rfl⟩

/-! ### One meaning -/

theorem Quoted.unique {t s s' r r' : Text} (h : Quoted t s r) (h' : Quoted t s' r') :
    s = s' ∧ r = r' := by
  have heq := h.readString_eq.symm.trans h'.readString_eq
  cases heq
  exact ⟨rfl, rfl⟩

theorem digitChar_injective : Function.Injective fun d : Fin 10 => Nat.digitChar d.val := by
  unfold Function.Injective
  decide

/-- The digits that a text begins with write one number. -/
theorem Figures.Writes.unique {f : Figures} {n n' : Numeral} (h : f.Writes n) (h' : f.Writes n') :
    n = n' := by
  have hnegative := h.negative.symm.trans h'.negative
  have hwhole := h.whole.symm.trans h'.whole
  have hfraction := digitChar_injective.list_map (h.fraction.symm.trans h'.fraction)
  have hexponent := h.exponent.symm.trans h'.exponent
  cases n
  cases n'
  simp only at hnegative hwhole hfraction hexponent
  rw [hnegative, hwhole, hfraction, hexponent]

theorem Number.unique {t r r' : Text} {n n' : Numeral} (h : Number t n r) (h' : Number t n' r') :
    n = n' ∧ r = r' := by
  obtain ⟨f, hread, hwrites⟩ := h.readFigures_eq .invalidNumber
  obtain ⟨f', hread', hwrites'⟩ := h'.readFigures_eq .invalidNumber
  cases hread.symm.trans hread'
  exact ⟨hwrites.unique hwrites', rfl⟩

/-- What stands where a value of each kind stands. -/
theorem Value.inversion {t r : Text} {v : Json} (h : Value t v r) :
    match v with
    | .null => t = "null".toList ++ r
    | .bool true => t = "true".toList ++ r
    | .bool false => t = "false".toList ++ r
    | .number n => Number t n r
    | .string s => ∃ u, t = '"' :: u ∧ Quoted u s r
    | .array items => ∃ u, t = '[' :: u ∧ (items = [] ∧ trimStart u = ']' :: r ∨ Items u items r)
    | .object ms =>
      ∃ u, t = '\x7b' :: u ∧ (ms = [] ∧ trimStart u = '\x7d' :: r ∨ Members u ms r) := by
  cases h with
  | null => rfl
  | boolTrue => rfl
  | boolFalse => rfl
  | number h => exact h
  | string h => exact ⟨_, rfl, h⟩
  | emptyArray h => exact ⟨_, rfl, .inl ⟨rfl, h⟩⟩
  | array h => exact ⟨_, rfl, .inr h⟩
  | emptyObject h => exact ⟨_, rfl, .inl ⟨rfl, h⟩⟩
  | object h => exact ⟨_, rfl, .inr h⟩

theorem Value.kind_unique {t r r' : Text} {v v' : Json} (h : Value t v r) (h' : Value t v' r') :
    v.kind = v'.kind := by
  obtain ⟨c, u, rfl, hkind⟩ := h.exists_eq_cons
  obtain ⟨c', u', heq, hkind'⟩ := h'.exists_eq_cons
  cases heq
  exact Option.some.inj (hkind.symm.trans hkind')

theorem Items.ne_close {t r : Text} {items : List Json} (h : Items t items r) (u : Text) :
    trimStart t ≠ ']' :: u := by
  obtain ⟨c, w, hcons, hne⟩ := h.exists_eq_cons
  rw [hcons]
  intro heq
  exact hne (List.cons.inj heq).1

theorem Members.ne_close {t r : Text} {ms : List (Text × Json)} (h : Members t ms r) (u : Text) :
    trimStart t ≠ '\x7d' :: u := by
  obtain ⟨w, hcons⟩ := h.exists_eq_cons
  rw [hcons]
  intro heq
  cases heq

mutual

/-- A text begins with one value at most. -/
theorem Value.unique : ∀ {t : Text} {v : Json} {r : Text}, Value t v r →
    ∀ {v' : Json} {r' : Text}, Value t v' r' → v = v' ∧ r = r'
  | _, _, _, .null, v', r', h' => by
    have hkind := Value.null.kind_unique h'
    cases v' with
    | null => exact ⟨rfl, List.append_cancel_left h'.inversion⟩
    | _ => cases hkind
  | _, _, _, .boolTrue, v', r', h' => by
    have hkind := Value.boolTrue.kind_unique h'
    cases v' with
    | bool b =>
      cases hkind
      exact ⟨rfl, List.append_cancel_left h'.inversion⟩
    | _ => cases hkind
  | _, _, _, .boolFalse, v', r', h' => by
    have hkind := Value.boolFalse.kind_unique h'
    cases v' with
    | bool b =>
      cases hkind
      exact ⟨rfl, List.append_cancel_left h'.inversion⟩
    | _ => cases hkind
  | _, _, _, .number h, v', r', h' => by
    have hkind := (Value.number h).kind_unique h'
    cases v' with
    | number n' =>
      obtain ⟨rfl, rfl⟩ := h.unique h'.inversion
      exact ⟨rfl, rfl⟩
    | _ => cases hkind
  | _, _, _, .string h, v', r', h' => by
    have hkind := (Value.string h).kind_unique h'
    cases v' with
    | string s' =>
      obtain ⟨u, heq, hquoted⟩ := h'.inversion
      cases heq
      obtain ⟨rfl, rfl⟩ := h.unique hquoted
      exact ⟨rfl, rfl⟩
    | _ => cases hkind
  | _, _, _, .emptyArray h, v', r', h' => by
    have hkind := (Value.emptyArray h).kind_unique h'
    cases v' with
    | array items' =>
      obtain ⟨u, heq, hitems⟩ := h'.inversion
      cases heq
      rcases hitems with ⟨rfl, hclose⟩ | hitems
      · cases h.symm.trans hclose
        exact ⟨rfl, rfl⟩
      · exact absurd h (hitems.ne_close _)
    | _ => cases hkind
  | _, _, _, .array h, v', r', h' => by
    have hkind := (Value.array h).kind_unique h'
    cases v' with
    | array items' =>
      obtain ⟨u, heq, hitems⟩ := h'.inversion
      cases heq
      rcases hitems with ⟨rfl, hclose⟩ | hitems
      · exact absurd hclose (h.ne_close _)
      · obtain ⟨rfl, rfl⟩ := h.unique hitems
        exact ⟨rfl, rfl⟩
    | _ => cases hkind
  | _, _, _, .emptyObject h, v', r', h' => by
    have hkind := (Value.emptyObject h).kind_unique h'
    cases v' with
    | object ms' =>
      obtain ⟨u, heq, hmembers⟩ := h'.inversion
      cases heq
      rcases hmembers with ⟨rfl, hclose⟩ | hmembers
      · cases h.symm.trans hclose
        exact ⟨rfl, rfl⟩
      · exact absurd h (hmembers.ne_close _)
    | _ => cases hkind
  | _, _, _, .object h, v', r', h' => by
    have hkind := (Value.object h).kind_unique h'
    cases v' with
    | object ms' =>
      obtain ⟨u, heq, hmembers⟩ := h'.inversion
      cases heq
      rcases hmembers with ⟨rfl, hclose⟩ | hmembers
      · exact absurd hclose (h.ne_close _)
      · obtain ⟨rfl, rfl⟩ := h.unique hmembers
        exact ⟨rfl, rfl⟩
    | _ => cases hkind
termination_by structural _ _ _ h => h

theorem Items.unique : ∀ {t : Text} {items : List Json} {r : Text}, Items t items r →
    ∀ {items' : List Json} {r' : Text}, Items t items' r' → items = items' ∧ r = r'
  | _, _, _, .last hvalue hclose, _, _, h' => by
    cases h' with
    | last hvalue' hclose' =>
      obtain ⟨rfl, rfl⟩ := hvalue.unique hvalue'
      cases hclose.symm.trans hclose'
      exact ⟨rfl, rfl⟩
    | more hvalue' hcomma' _ =>
      obtain ⟨rfl, rfl⟩ := hvalue.unique hvalue'
      cases hclose.symm.trans hcomma'
  | _, _, _, .more hvalue hcomma hrest, _, _, h' => by
    cases h' with
    | last hvalue' hclose' =>
      obtain ⟨rfl, rfl⟩ := hvalue.unique hvalue'
      cases hcomma.symm.trans hclose'
    | more hvalue' hcomma' hrest' =>
      obtain ⟨rfl, rfl⟩ := hvalue.unique hvalue'
      cases hcomma.symm.trans hcomma'
      obtain ⟨rfl, rfl⟩ := hrest.unique hrest'
      exact ⟨rfl, rfl⟩
termination_by structural _ _ _ h => h

theorem Members.unique : ∀ {t : Text} {ms : List (Text × Json)} {r : Text}, Members t ms r →
    ∀ {ms' : List (Text × Json)} {r' : Text}, Members t ms' r' → ms = ms' ∧ r = r'
  | _, _, _, .last hmember hclose, _, _, h' => by
    cases h' with
    | last hmember' hclose' =>
      obtain ⟨rfl, rfl, rfl⟩ := hmember.unique hmember'
      cases hclose.symm.trans hclose'
      exact ⟨rfl, rfl⟩
    | more hmember' hcomma' _ =>
      obtain ⟨rfl, rfl, rfl⟩ := hmember.unique hmember'
      cases hclose.symm.trans hcomma'
  | _, _, _, .more hmember hcomma hrest, _, _, h' => by
    cases h' with
    | last hmember' hclose' =>
      obtain ⟨rfl, rfl, rfl⟩ := hmember.unique hmember'
      cases hcomma.symm.trans hclose'
    | more hmember' hcomma' hrest' =>
      obtain ⟨rfl, rfl, rfl⟩ := hmember.unique hmember'
      cases hcomma.symm.trans hcomma'
      obtain ⟨rfl, rfl⟩ := hrest.unique hrest'
      exact ⟨rfl, rfl⟩
termination_by structural _ _ _ h => h

theorem Member.unique : ∀ {t k : Text} {v : Json} {r : Text}, Member t k v r →
    ∀ {k' : Text} {v' : Json} {r' : Text}, Member t k' v' r' → k = k' ∧ v = v' ∧ r = r'
  | _, _, _, _, .mk hquote hkey hcolon hvalue, _, _, _, .mk hquote' hkey' hcolon' hvalue' => by
    cases hquote.symm.trans hquote'
    obtain ⟨rfl, rfl⟩ := hkey.unique hkey'
    cases hcolon.symm.trans hcolon'
    obtain ⟨rfl, rfl⟩ := hvalue.unique hvalue'
    exact ⟨rfl, rfl, rfl⟩
termination_by structural _ _ _ _ h => h

end

/-- A text is a document with one value at most. -/
theorem Document.unique {t : Text} {v v' : Json} (h : Document t v) (h' : Document t v') :
    v = v' := by
  obtain ⟨r, hvalue, -⟩ := h
  obtain ⟨r', hvalue', -⟩ := h'
  exact (hvalue.unique hvalue').1

/-- `t` is one of the two texts of `v`. -/
def Prints (v : Json) (t : Text) : Prop :=
  t = v.compact ∨ t = v.pretty

/-- Either text of a value is a document with this value and with no other. -/
theorem Prints.document_iff {v w : Json} {t : Text} (h : v.Prints t) : Document t w ↔ w = v := by
  have hdocument : Document t v := by
    rcases h with rfl | rfl
    · exact document_compact v
    · exact document_pretty v
  constructor
  · intro hw
    exact hw.unique hdocument
  · rintro rfl
    exact hdocument

/-! ### What a value holds -/

/-- The text of a string. -/
def text? : Json → Option Text
  | .string s => some s
  | _ => none

/-- The items of an array. -/
def items? : Json → Option (List Json)
  | .array items => some items
  | _ => none

/-- The texts of an array of strings. -/
def texts? (v : Json) : Option (List Text) :=
  v.items?.bind (·.mapM text?)

theorem mapM_text?_cons (v : Json) (vs : List Json) :
    (v :: vs).mapM text? = v.text?.bind fun s => (vs.mapM text?).map (s :: ·) := by
  rw [List.mapM_cons]
  cases v.text? with
  | none => rfl
  | some s => cases vs.mapM text? <;> rfl

/-- An array of strings holds their texts. -/
theorem texts?_map_string (ts : List Text) : texts? (.array (ts.map .string)) = some ts := by
  rw [texts?, items?, Option.bind_some]
  induction ts with
  | nil => rfl
  | cons t ts ih =>
    rw [List.map_cons, mapM_text?_cons, ih]
    rfl

end WatInlay.Json
