/-
Statements by their spelling.

`Step.Spells` says which texts an element of a lead allows, all of them and not
only the longest at the place. Reading is greedy and gives nothing back; in an
unambiguous lead that loses no text, since what follows a run or an optional
word can never be taken for more of it (`parts?_eq_some_iff`). Hence the
grammars of C++ and Rust accept exactly the statements that `CppForm` and
`RustForm` spell out, each taken apart in one way (`match?_exact`).
-/

import Mathlib.Data.List.Forall2
import WatInlay.Proofs.Delimited

namespace WatInlay.Literal

/-! ### What an element allows -/

/-- The texts that an element may stand for. -/
def Step.Spells : Step → Text → Prop
  | .blanks, a => ∀ c ∈ a, Text.isBlank c = true
  | .word w, a => a = w
  | .maybe w, a => a = [] ∨ a = w
  | .identifier, a => a ≠ [] ∧ ∀ c ∈ a, Text.isWordChar c = true

/-- No text that the elements allow is empty or begins with a character of the
class. -/
def opensOutside (p : Char → Bool) : List Step → Bool
  | .word (c :: _) :: _ => !p c
  | .maybe (c :: _) :: steps => !p c && opensOutside p steps
  | _ => false

/-- A run is followed by what it cannot run over, and a word that may be missing
by one that neither begins with it nor is its beginning. -/
def unambiguous : List Step → Bool
  | [] => true
  | .blanks :: steps => opensOutside Text.isBlank steps && unambiguous steps
  | .identifier :: steps => opensOutside Text.isWordChar steps && unambiguous steps
  | .word _ :: steps => unambiguous steps
  | .maybe w :: .word v :: steps =>
    !v.isPrefixOf w && !w.isPrefixOf v && unambiguous (.word v :: steps)
  | .maybe _ :: _ => false

/-- What each of the elements takes, in order, and what they leave. -/
def parts? : List Step → Text → Option (List Text × Text)
  | [], t => some ([], t)
  | s :: steps, t => do
    let (a, t) ← s.take? t
    let (parts, t) ← parts? steps t
    return (a :: parts, t)

theorem takeAll?_eq_map_parts? (steps : List Step) (t : Text) :
    takeAll? steps t = (parts? steps t).map fun (parts, r) => (parts.flatten, r) := by
  induction steps generalizing t with
  | nil => rfl
  | cons s steps ih =>
    simp only [takeAll?, parts?, Option.bind_eq_bind]
    cases s.take? t with
    | none => rfl
    | some taken =>
      simp only [Option.bind_some, ih]
      cases parts? steps taken.2 <;> rfl

theorem parts?_cons_eq_some_iff {s : Step} {steps : List Step} {t r : Text} {ps : List Text} :
    parts? (s :: steps) t = some (ps, r) ↔
      ∃ a u parts, s.take? t = some (a, u) ∧ parts? steps u = some (parts, r) ∧ ps = a :: parts := by
  simp only [parts?, Option.bind_eq_bind, Option.bind_eq_some_iff, Option.pure_def,
    Option.some.injEq, Prod.exists, Prod.mk.injEq]
  constructor
  · rintro ⟨a, u, ha, parts, v, hparts, rfl, rfl⟩
    exact ⟨a, u, parts, ha, hparts, rfl⟩
  · rintro ⟨a, u, parts, ha, hparts, rfl⟩
    exact ⟨a, u, ha, parts, r, hparts, rfl, rfl⟩

/-! ### Greedy reading -/

/-- A word that may be missing is there or not. -/
theorem Step.spells_maybe_iff {w a : Text} :
    (Step.maybe w).Spells a ↔ ∃ isThere : Bool, a = if isThere then w else [] := by
  simp [Step.Spells, or_comm]

theorem flag_inj {w : Text} (hw : w ≠ []) {b b' : Bool}
    (h : (if b then w else []) = if b' then w else []) : b = b' := by
  cases b <;> cases b' <;> simp_all

theorem Step.spells_of_take? {s : Step} {t a r : Text} (h : s.take? t = some (a, r)) :
    s.Spells a := by
  cases s with
  | blanks =>
    cases h
    exact fun c hc => List.all_eq_true.mp List.all_takeWhile c hc
  | word w =>
    obtain ⟨r, -, heq⟩ := Option.map_eq_some_iff.mp h
    cases heq
    rfl
  | maybe w =>
    simp only [take?, Option.some.injEq] at h
    cases hw : w.strip? t with
    | none =>
      rw [hw] at h
      cases h
      exact .inl rfl
    | some r =>
      rw [hw] at h
      cases h
      exact .inr rfl
  | identifier =>
    simp only [take?] at h
    split at h
    · cases h
    · rename_i hword
      cases h
      exact ⟨by simpa using hword, fun c hc => List.all_eq_true.mp List.all_takeWhile c hc⟩

theorem spells_of_parts? {steps : List Step} {t r : Text} {parts : List Text}
    (h : parts? steps t = some (parts, r)) :
    List.Forall₂ Step.Spells steps parts ∧ t = parts.flatten ++ r := by
  induction steps generalizing t parts with
  | nil =>
    cases h
    exact ⟨.nil, rfl⟩
  | cons s steps ih =>
    obtain ⟨a, u, parts, ha, hparts, rfl⟩ := parts?_cons_eq_some_iff.mp h
    obtain ⟨hspells, hu⟩ := ih hparts
    refine ⟨.cons (Step.spells_of_take? ha) hspells, ?_⟩
    rw [Step.eq_append_of_take? ha, hu, List.flatten_cons, List.append_assoc]

theorem exists_of_opensOutside {p : Char → Bool} {steps : List Step} {parts : List Text}
    (hp : opensOutside p steps = true) (h : List.Forall₂ Step.Spells steps parts) :
    ∃ c l, parts.flatten = c :: l ∧ p c = false := by
  fun_induction opensOutside p steps generalizing parts with
  | case1 c w steps =>
    obtain - | ⟨hword, -⟩ := h
    rw [hword]
    exact ⟨c, _, rfl, by simpa using hp⟩
  | case2 c w steps ih =>
    rw [Bool.and_eq_true] at hp
    obtain - | ⟨hword, hrest⟩ := h
    rcases hword with rfl | rfl
    · obtain ⟨c, l, hl, hc⟩ := ih hp.2 hrest
      exact ⟨c, l, hl, hc⟩
    · exact ⟨c, _, rfl, by simpa using hp.1⟩
  | case3 => cases hp

/-- A run of the class ends where such steps begin. -/
theorem span_of_opensOutside {p : Char → Bool} {steps : List Step} {parts : List Text} {a : Text}
    (hp : opensOutside p steps = true) (h : List.Forall₂ Step.Spells steps parts)
    (ha : ∀ d ∈ a, p d = true) (r : Text) :
    (a ++ (parts.flatten ++ r)).takeWhile p = a ∧
      (a ++ (parts.flatten ++ r)).dropWhile p = parts.flatten ++ r := by
  obtain ⟨c, l, hl, hc⟩ := exists_of_opensOutside hp h
  rw [hl]
  exact Text.span_append_cons ha hc (l ++ r)

/-- Whatever an unambiguous lead allows is read as it is meant, before any
text. -/
theorem parts?_of_spells {steps : List Step} {parts : List Text} (hs : unambiguous steps = true)
    (h : List.Forall₂ Step.Spells steps parts) (r : Text) :
    parts? steps (parts.flatten ++ r) = some (parts, r) := by
  fun_induction unambiguous steps generalizing parts with
  | case1 =>
    cases h
    rfl
  | case2 steps ih =>
    rw [Bool.and_eq_true] at hs
    obtain - | ⟨ha, hrest⟩ := h
    rename_i a parts
    obtain ⟨htake, hdrop⟩ := span_of_opensOutside hs.1 hrest ha r
    refine parts?_cons_eq_some_iff.mpr ⟨_, parts.flatten ++ r, _, ?_, ih hs.2 hrest, rfl⟩
    rw [List.flatten_cons, List.append_assoc, Step.take?, htake, hdrop]
  | case3 steps ih =>
    rw [Bool.and_eq_true] at hs
    obtain - | ⟨ha, hrest⟩ := h
    rename_i a parts
    obtain ⟨htake, hdrop⟩ := span_of_opensOutside hs.1 hrest ha.2 r
    refine parts?_cons_eq_some_iff.mpr ⟨_, parts.flatten ++ r, _, ?_, ih hs.2 hrest, rfl⟩
    rw [List.flatten_cons, List.append_assoc, Step.take?, htake, hdrop, if_neg]
    simpa using ha.1
  | case4 w steps ih =>
    obtain - | ⟨ha, hrest⟩ := h
    rename_i a parts
    cases ha
    refine parts?_cons_eq_some_iff.mpr ⟨_, parts.flatten ++ r, _, ?_, ih hs hrest, rfl⟩
    rw [List.flatten_cons, List.append_assoc, Step.take?, Text.strip?_self_append]
    rfl
  | case5 w v steps ih =>
    simp only [Bool.and_eq_true, Bool.not_eq_true'] at hs
    obtain - | ⟨ha, hrest⟩ := h
    rename_i a parts
    refine parts?_cons_eq_some_iff.mpr ⟨_, parts.flatten ++ r, _, ?_, ih hs.2 hrest, rfl⟩
    rw [List.flatten_cons, List.append_assoc, Step.take?]
    rcases ha with rfl | rfl
    · -- the word is missing: the next one stands at the head
      obtain - | ⟨hv, -⟩ := hrest
      rename_i b parts
      cases hv
      rw [List.nil_append, List.flatten_cons, List.append_assoc,
        (Text.strip?_append_eq_none_iff hs.1.1 _).mpr hs.1.2]
      rfl
    · rw [Text.strip?_self_append]
      rfl
  | case6 => cases hs

/-- Greedy reading of an unambiguous lead takes a text apart exactly as its
elements allow. -/
theorem parts?_eq_some_iff {steps : List Step} {t r : Text} {parts : List Text}
    (hs : unambiguous steps = true) :
    parts? steps t = some (parts, r) ↔
      List.Forall₂ Step.Spells steps parts ∧ t = parts.flatten ++ r := by
  constructor
  · exact spells_of_parts?
  · rintro ⟨hspells, rfl⟩
    exact parts?_of_spells hs hspells r

/-! ### Statements -/

/-- `t` begins with a statement of the grammar: parts of the lead, a payload
without a semicolon, the tail. -/
structure Grammar.Spells (g : Grammar) (t : Text) (parts : List Text) (payload rest : Text) :
    Prop where
  lead : List.Forall₂ Step.Spells g.lead parts
  semicolon : ';' ∉ payload
  eq : t = parts.flatten ++ (payload ++ g.tail ++ rest)

namespace Grammar

variable {g : Grammar} {t : Text} {parts : List Text} {payload rest : Text}

/-- A grammar with an unambiguous lead and a tail that ends the statement reads
exactly the statements that it spells. -/
theorem read?_eq_some_iff_spells (hg : g.SelfDelimiting) (hlead : unambiguous g.lead = true)
    {k : Reading} :
    g.read? t = some k ↔ ∃ parts, g.Spells t parts k.payload k.rest ∧ k.lead = parts.flatten := by
  constructor
  · intro h
    obtain ⟨htake, -⟩ := read?_eq_some_iff.mp h
    rw [takeAll?_eq_map_parts?, Option.map_eq_some_iff] at htake
    obtain ⟨⟨parts, r⟩, hparts, heq⟩ := htake
    simp only [Prod.mk.injEq] at heq
    obtain ⟨hk, rfl⟩ := heq
    obtain ⟨hspells, ht⟩ := spells_of_parts? hparts
    exact ⟨parts, ⟨hspells, hg.semicolon_not_mem_payload h, ht⟩, hk.symm⟩
  · rintro ⟨parts, h, hk⟩
    refine read?_eq_some_iff.mpr ⟨?_, hg.endsAtSemicolon h.semicolon⟩
    rw [takeAll?_eq_map_parts?, (parts?_eq_some_iff hlead).mpr ⟨h.lead, h.eq⟩, hk]
    rfl

/-- There is one way to take a statement apart. -/
theorem Spells.unique (hg : g.SelfDelimiting) (hlead : unambiguous g.lead = true)
    {parts' : List Text} {payload' rest' : Text} (h : g.Spells t parts payload rest)
    (h' : g.Spells t parts' payload' rest') :
    parts = parts' ∧ payload = payload' ∧ rest = rest' := by
  have hparts := (parts?_eq_some_iff hlead).mpr ⟨h.lead, h.eq⟩
  have hparts' := (parts?_eq_some_iff hlead).mpr ⟨h'.lead, h'.eq⟩
  have hread := (read?_eq_some_iff_spells hg hlead (k := ⟨_, payload, rest⟩)).mpr ⟨parts, h, rfl⟩
  have hread' :=
    (read?_eq_some_iff_spells hg hlead (k := ⟨_, payload', rest'⟩)).mpr ⟨parts', h', rfl⟩
  rw [hparts] at hparts'
  rw [hread] at hread'
  simp only [Option.some.injEq, Prod.mk.injEq, Reading.mk.injEq] at hparts' hread'
  exact ⟨hparts'.1, hread'.2⟩

end Grammar

/-- Where a statement stands whose lead, payload and tail follow offset `pos`. -/
def Statement.behind (pos : Nat) (lead payload tail : Text) : Statement where
  payloadStart := pos + Text.size lead
  payloadStop := pos + Text.size (lead ++ payload)
  stop := pos + Text.size (lead ++ payload ++ tail)

/-- The statement at an offset is one that the text behind the offset spells. -/
theorem Grammar.match?_eq_some_iff_spells {g : Grammar} (hg : g.SelfDelimiting)
    (hlead : unambiguous g.lead = true) {source : Text} {pos : Nat}
    (hpos : source.IsBoundary pos) {s : Statement} :
    g.match? source pos = some s ↔
      ∃ parts payload rest, g.Spells (source.after pos) parts payload rest ∧
        s = Statement.behind pos parts.flatten payload g.tail := by
  obtain ⟨p, r, rfl, rfl⟩ := Text.isBoundary_iff.mp hpos
  rw [match?_append, Option.map_eq_some_iff, Text.after_eq rfl]
  constructor
  · rintro ⟨k, hk, rfl⟩
    obtain ⟨parts, hspells, hparts⟩ := (read?_eq_some_iff_spells hg hlead).mp hk
    refine ⟨parts, k.payload, k.rest, hspells, ?_⟩
    rw [← hparts]
    rfl
  · rintro ⟨parts, payload, rest, hspells, rfl⟩
    exact ⟨⟨parts.flatten, payload, rest⟩,
      (read?_eq_some_iff_spells hg hlead).mpr ⟨parts, hspells, rfl⟩, rfl⟩

/-! ### The statements of the two languages -/

/-- What can be chosen in a literal statement of any language, and what follows
it. -/
@[ext]
structure Form where
  /-- The white space before the statement. -/
  indent : Text
  name : Text
  /-- The white space behind the equals sign. -/
  gap : Text
  /-- The white space behind the parenthesis. -/
  pad : Text
  payload : Text
  rest : Text
  indent_blank : ∀ c ∈ indent, Text.isBlank c = true
  name_ne_nil : name ≠ []
  name_word : ∀ c ∈ name, Text.isWordChar c = true
  gap_blank : ∀ c ∈ gap, Text.isBlank c = true
  pad_blank : ∀ c ∈ pad, Text.isBlank c = true
  semicolon_not_mem : ';' ∉ payload

/-- A text that begins with a statement of C++, such as
`const auto wasm = fizzy::test::from_hex("…");`. -/
@[ext]
structure CppForm extends Form where
  isConst : Bool
  isQualified : Bool

/-- A text that begins with a statement of Rust, such as
`let wasm = hex::decode("…").unwrap();`. -/
@[ext]
structure RustForm extends Form

namespace CppForm

/-- What stands before the payload, in parts. -/
def parts (f : CppForm) : List Text :=
  [f.indent, if f.isConst then "const ".toList else [], "auto ".toList, f.name, " =".toList, f.gap,
    if f.isQualified then "fizzy::test::".toList else [], "from_hex(".toList, f.pad, "\"".toList]

/-- The text. -/
def text (f : CppForm) : Text :=
  f.parts.flatten ++ (f.payload ++ "\");".toList ++ f.rest)

/-- Where the statement stands, when the text stands at offset `pos`. -/
def place (f : CppForm) (pos : Nat) : Statement :=
  .behind pos f.parts.flatten f.payload "\");".toList

end CppForm

namespace RustForm

/-- What stands before the payload, in parts. -/
def parts (f : RustForm) : List Text :=
  [f.indent, "let ".toList, f.name, " =".toList, f.gap, "hex::decode(".toList, f.pad,
    "\"".toList]

/-- The text. -/
def text (f : RustForm) : Text :=
  f.parts.flatten ++ (f.payload ++ "\").unwrap();".toList ++ f.rest)

/-- Where the statement stands, when the text stands at offset `pos`. -/
def place (f : RustForm) (pos : Nat) : Statement :=
  .behind pos f.parts.flatten f.payload "\").unwrap();".toList

end RustForm

theorem unambiguous_cpp : unambiguous Dialect.cpp.literal.lead = true := by decide

theorem unambiguous_rust : unambiguous Dialect.rust.literal.lead = true := by decide

section

variable {t : Text} {parts : List Text} {payload rest : Text}

/-- The grammar of C++ spells the forms of C++. -/
theorem spells_cpp_iff :
    Dialect.cpp.literal.Spells t parts payload rest ↔
      ∃ f : CppForm, f.text = t ∧ f.parts = parts ∧ f.payload = payload ∧ f.rest = rest := by
  constructor
  · rintro ⟨hlead, hsemi, ht⟩
    obtain - | ⟨hindent, - | ⟨hconst, - | ⟨hauto, - | ⟨hname, - | ⟨hequals, - | ⟨hgap, - |
      ⟨hqualified, - | ⟨hcall, - | ⟨hpad, - | ⟨hquote, - | -⟩⟩⟩⟩⟩⟩⟩⟩⟩⟩ := hlead
    obtain ⟨isConst, rfl⟩ := Step.spells_maybe_iff.mp hconst
    obtain ⟨isQualified, rfl⟩ := Step.spells_maybe_iff.mp hqualified
    cases hauto
    cases hequals
    cases hcall
    cases hquote
    exact ⟨⟨⟨_, _, _, _, payload, rest, hindent, hname.1, hname.2, hgap, hpad, hsemi⟩, isConst,
      isQualified⟩, ht.symm, rfl, rfl, rfl⟩
  · rintro ⟨f, rfl, rfl, rfl, rfl⟩
    refine ⟨?_, f.semicolon_not_mem, rfl⟩
    exact .cons f.indent_blank (.cons (Step.spells_maybe_iff.mpr ⟨_, rfl⟩) (.cons rfl
      (.cons ⟨f.name_ne_nil, f.name_word⟩ (.cons rfl (.cons f.gap_blank
        (.cons (Step.spells_maybe_iff.mpr ⟨_, rfl⟩) (.cons rfl (.cons f.pad_blank
          (.cons rfl .nil)))))))))

/-- The grammar of Rust spells the forms of Rust. -/
theorem spells_rust_iff :
    Dialect.rust.literal.Spells t parts payload rest ↔
      ∃ f : RustForm, f.text = t ∧ f.parts = parts ∧ f.payload = payload ∧ f.rest = rest := by
  constructor
  · rintro ⟨hlead, hsemi, ht⟩
    obtain - | ⟨hindent, - | ⟨hlet, - | ⟨hname, - | ⟨hequals, - | ⟨hgap, - | ⟨hcall, - |
      ⟨hpad, - | ⟨hquote, - | -⟩⟩⟩⟩⟩⟩⟩⟩ := hlead
    cases hlet
    cases hequals
    cases hcall
    cases hquote
    exact ⟨⟨⟨_, _, _, _, payload, rest, hindent, hname.1, hname.2, hgap, hpad, hsemi⟩⟩, ht.symm,
      rfl, rfl, rfl⟩
  · rintro ⟨f, rfl, rfl, rfl, rfl⟩
    refine ⟨?_, f.semicolon_not_mem, rfl⟩
    exact .cons f.indent_blank (.cons rfl (.cons ⟨f.name_ne_nil, f.name_word⟩ (.cons rfl
      (.cons f.gap_blank (.cons rfl (.cons f.pad_blank (.cons rfl .nil)))))))

end

theorem CppForm.text_injective : Function.Injective CppForm.text := by
  intro f f' h
  have hf := spells_cpp_iff.mpr ⟨f, rfl, rfl, rfl, rfl⟩
  have hf' := spells_cpp_iff.mpr ⟨f', h.symm, rfl, rfl, rfl⟩
  obtain ⟨hparts, hpayload, hrest⟩ := hf.unique selfDelimiting_cpp unambiguous_cpp hf'
  simp only [parts, List.cons.injEq, and_true, true_and] at hparts
  obtain ⟨hindent, hconst, hname, hgap, hqualified, hpad⟩ := hparts
  exact CppForm.ext hindent hname hgap hpad hpayload hrest (flag_inj (by decide) hconst)
    (flag_inj (by decide) hqualified)

theorem RustForm.text_injective : Function.Injective RustForm.text := by
  intro f f' h
  have hf := spells_rust_iff.mpr ⟨f, rfl, rfl, rfl, rfl⟩
  have hf' := spells_rust_iff.mpr ⟨f', h.symm, rfl, rfl, rfl⟩
  obtain ⟨hparts, hpayload, hrest⟩ := hf.unique selfDelimiting_rust unambiguous_rust hf'
  simp only [parts, List.cons.injEq, and_true, true_and] at hparts
  obtain ⟨hindent, hname, hgap, hpad⟩ := hparts
  exact RustForm.ext hindent hname hgap hpad hpayload hrest

/-! ### Matching -/

/-- Matching at a character boundary finds a statement exactly when the text
behind the boundary has a form of the language, and finds it where the form
says; and a text has at most one form. -/
theorem match?_exact {source : Text} {pos : Nat} (hpos : source.IsBoundary pos) :
    (∀ s, Dialect.cpp.literal.match? source pos = some s ↔
        ∃ f : CppForm, source.after pos = f.text ∧ s = f.place pos) ∧
      (∀ s, Dialect.rust.literal.match? source pos = some s ↔
        ∃ f : RustForm, source.after pos = f.text ∧ s = f.place pos) ∧
      Function.Injective CppForm.text ∧ Function.Injective RustForm.text := by
  refine ⟨fun s => ?_, fun s => ?_, CppForm.text_injective, RustForm.text_injective⟩
  · rw [Grammar.match?_eq_some_iff_spells selfDelimiting_cpp unambiguous_cpp hpos]
    constructor
    · rintro ⟨_, _, _, hspells, rfl⟩
      obtain ⟨f, htext, rfl, rfl, rfl⟩ := spells_cpp_iff.mp hspells
      exact ⟨f, htext.symm, rfl⟩
    · rintro ⟨f, htext, rfl⟩
      exact ⟨_, _, _, spells_cpp_iff.mpr ⟨f, htext.symm, rfl, rfl, rfl⟩, rfl⟩
  · rw [Grammar.match?_eq_some_iff_spells selfDelimiting_rust unambiguous_rust hpos]
    constructor
    · rintro ⟨_, _, _, hspells, rfl⟩
      obtain ⟨f, htext, rfl, rfl, rfl⟩ := spells_rust_iff.mp hspells
      exact ⟨f, htext.symm, rfl⟩
    · rintro ⟨f, htext, rfl⟩
      exact ⟨_, _, _, spells_rust_iff.mpr ⟨f, htext.symm, rfl, rfl, rfl⟩, rfl⟩

/-- A statement without `const`, with a payload in two pieces, before text that
looks like the end of another one. -/
def splitForm : CppForm where
  indent := "\n\u00a0".toList
  isConst := false
  name := "constant_é".toList
  gap := "\t".toList
  isQualified := true
  pad := " ".toList
  payload := "00\"\n\"61".toList
  rest := " \");".toList
  indent_blank := List.all_eq_true.mp (by decide)
  name_ne_nil := by decide
  name_word := List.all_eq_true.mp (by decide)
  gap_blank := List.all_eq_true.mp (by decide)
  pad_blank := List.all_eq_true.mp (by decide)
  semicolon_not_mem := by decide

/-- A statement of Rust with nothing between its quotes, before a comment that looks like
its end. -/
def emptyForm : RustForm where
  indent := " ".toList
  name := "größe".toList
  gap := []
  pad := "\u2003\n".toList
  payload := []
  rest := " // \").unwrap();".toList
  indent_blank := List.all_eq_true.mp (by decide)
  name_ne_nil := by decide
  name_word := List.all_eq_true.mp (by decide)
  gap_blank := List.all_eq_true.mp (by decide)
  pad_blank := List.all_eq_true.mp (by decide)
  semicolon_not_mem := by decide

/-- Both are found behind a character of two bytes. -/
theorem match?_exact_sample :
    Text.IsBoundary ('é' :: splitForm.text) 2 ∧ Text.IsBoundary ('é' :: emptyForm.text) 2 ∧
      Dialect.cpp.literal.match? ('é' :: splitForm.text) 2 = some ⟨48, 55, 58⟩ ∧
      Dialect.rust.literal.match? ('é' :: emptyForm.text) 2 = some ⟨33, 33, 45⟩ := by
  have hcpp : Text.IsBoundary ('é' :: splitForm.text) 2 := by decide
  have hrust : Text.IsBoundary ('é' :: emptyForm.text) 2 := by decide
  have hsplit : splitForm.place 2 = ⟨48, 55, 58⟩ := by decide
  have hempty : emptyForm.place 2 = ⟨33, 33, 45⟩ := by decide
  rw [← hsplit, ← hempty]
  refine ⟨hcpp, hrust, ?_, ?_⟩
  · exact ((match?_exact hcpp).1 _).mpr ⟨splitForm, by decide, rfl⟩
  · exact ((match?_exact hrust).2.1 _).mpr ⟨emptyForm, by decide, rfl⟩

end WatInlay.Literal
