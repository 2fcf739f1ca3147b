import MarketFeed.Json.Reader
import MarketFeed.Json.Value

namespace MarketFeed.Json

/-!
# The grammar of JSON

What it means that a text is JSON, without regard to any reader.  Each relation holds of a value, a
text that begins with a spelling of the value, and the rest of the text after it.

* `Spaces` — blanks that may stand between tokens.
* `StringBody` — a string literal after its opening quote.
* `IsNumber` — the number literals.
* `Spelled` — a value, with `ItemsSpelled`, `MembersSpelled` and `MemberSpelled` for what stands
  between brackets.
* `Spelled.length_lt` — a value takes something off the text.
* `Document` — a value as a whole text.
-/

/-! ### Blanks -/

/-- Blanks, and then the rest. -/
inductive Spaces : List Char → List Char → Prop
  | none {rest : List Char} : Spaces rest rest
  | some {c : Char} {text rest : List Char} (hspace : isSpace c) (h : Spaces text rest) :
      Spaces (c :: text) rest

/-- A text is no longer behind its blanks. -/
theorem Spaces.length_le {text rest : List Char} (h : Spaces text rest) :
    rest.length ≤ text.length := by
  induction h with
  | none => exact Nat.le_refl _
  | some _ _ ih => exact Nat.le_succ_of_le ih

/-! ### String literals -/

/-- The letters of the short escapes, and the characters they stand for. -/
def shortEscapes : List (Char × Char) :=
  [('"', '"'), ('\\', '\\'), ('/', '/'), ('b', '\x08'), ('f', '\x0c'), ('n', '\n'), ('r', '\r'),
   ('t', '\t')]

/-- The characters of a string literal after its opening quote, and then the rest.  A character
    beyond the basic plane may be written as two escapes, the halves of a surrogate pair; neither
    half stands alone. -/
inductive StringBody : List Char → List Char → List Char → Prop
  | close {rest : List Char} : StringBody [] ('"' :: rest) rest
  | plain {c : Char} {s text rest : List Char} (hquote : c ≠ '"') (hslash : c ≠ '\\')
      (hcontrol : 0x20 ≤ c.toNat) (h : StringBody s text rest) :
      StringBody (c :: s) (c :: text) rest
  | short {letter c : Char} {s text rest : List Char} (hshort : (letter, c) ∈ shortEscapes)
      (h : StringBody s text rest) : StringBody (c :: s) ('\\' :: letter :: text) rest
  | unicode {d₁ d₂ d₃ d₄ c : Char} {s text rest : List Char}
      (hword : hexWord? d₁ d₂ d₃ d₄ = some c.toNat) (h : StringBody s text rest) :
      StringBody (c :: s) ('\\' :: 'u' :: d₁ :: d₂ :: d₃ :: d₄ :: text) rest
  | pair {d₁ d₂ d₃ d₄ e₁ e₂ e₃ e₄ c : Char} {high low : Nat} {s text rest : List Char}
      (hhigh : hexWord? d₁ d₂ d₃ d₄ = some high) (hlow : hexWord? e₁ e₂ e₃ e₄ = some low)
      (hhigh' : isHighSurrogate high) (hlow' : isLowSurrogate low)
      (hc : c.toNat = 0x10000 + (high - 0xD800) * 0x400 + (low - 0xDC00))
      (h : StringBody s text rest) :
      StringBody (c :: s)
        ('\\' :: 'u' :: d₁ :: d₂ :: d₃ :: d₄ :: '\\' :: 'u' :: e₁ :: e₂ :: e₃ :: e₄ :: text) rest

/-- The rest of a literal has at least its closing quote. -/
theorem StringBody.length_lt {s text rest : List Char} (h : StringBody s text rest) :
    rest.length < text.length := by
  induction h with
  | close => simp
  | plain _ _ _ _ ih => simp only [List.length_cons]; omega
  | short _ _ ih => simp only [List.length_cons]; omega
  | unicode _ _ ih => simp only [List.length_cons]; omega
  | pair _ _ _ _ _ _ ih => simp only [List.length_cons]; omega

/-! ### Numbers -/

/-- At least one digit. -/
def IsDigits (ds : List Char) : Prop := ds ≠ [] ∧ ∀ d ∈ ds, d.isDigit

instance (ds : List Char) : Decidable (IsDigits ds) :=
  @instDecidableAnd _ _ inferInstance (List.decidableBAll (fun d : Char => d.isDigit) ds)

/-- The parts of a number literal. -/
structure NumberParts where
  sign : List Char
  whole : List Char
  fraction : List Char
  power : List Char

/-- The literal with these parts. -/
def NumberParts.text (p : NumberParts) : List Char := p.sign ++ p.whole ++ p.fraction ++ p.power

/-- Parts that make up a number: perhaps a minus, digits without a needless zero in front, perhaps a
    point and a fraction, perhaps an exponent with its sign. -/
structure NumberParts.Valid (p : NumberParts) : Prop where
  sign : p.sign = [] ∨ p.sign = ['-']
  whole : IsDigits p.whole ∧ (p.whole.head? = some '0' → p.whole = ['0'])
  fraction : p.fraction = [] ∨ ∃ ds, p.fraction = '.' :: ds ∧ IsDigits ds
  power : p.power = [] ∨ ∃ e sign ds, p.power = e :: (sign ++ ds) ∧ (e = 'e' ∨ e = 'E') ∧
    (sign = [] ∨ sign = ['+'] ∨ sign = ['-']) ∧ IsDigits ds

/-- The text is a number literal. -/
def IsNumber (text : List Char) : Prop := ∃ p : NumberParts, p.Valid ∧ text = p.text

/-- Digits alone are a number, unless there is a needless zero in front. -/
theorem IsDigits.isNumber {ds : List Char} (h : IsDigits ds)
    (hzero : ds.head? = some '0' → ds = ['0']) : IsNumber ds := by
  refine ⟨⟨[], ds, [], []⟩, ⟨.inl rfl, ⟨h, hzero⟩, .inl rfl, .inl rfl⟩, ?_⟩
  simp [NumberParts.text]

/-- What holds of the digits and of the few other characters of number literals holds of all
    characters of a number. -/
theorem IsNumber.forall_mem {P : Char → Prop} {text : List Char} (h : IsNumber text)
    (hdigit : ∀ c : Char, c.isDigit → P c) (hmark : ∀ c ∈ ['-', '+', '.', 'e', 'E'], P c) :
    ∀ c ∈ text, P c := by
  obtain ⟨p, hp, rfl⟩ := h
  have hdigits : ∀ ds, IsDigits ds → ∀ c ∈ ds, P c := fun ds hds c hc => hdigit c (hds.2 c hc)
  simp only [NumberParts.text, List.forall_mem_append]
  refine ⟨⟨⟨?_, hdigits _ hp.whole.1⟩, ?_⟩, ?_⟩
  · rcases hp.sign with hs | hs <;> rw [hs]
    · exact List.forall_mem_nil P
    · exact List.forall_mem_singleton.mpr (hmark '-' (by decide))
  · rcases hp.fraction with hf | ⟨ds, hf, hds⟩ <;> rw [hf]
    · exact List.forall_mem_nil P
    · exact List.forall_mem_cons.mpr ⟨hmark '.' (by decide), hdigits ds hds⟩
  · rcases hp.power with hf | ⟨e, sign, ds, hf, he, hsign, hds⟩ <;> rw [hf]
    · exact List.forall_mem_nil P
    · rw [List.forall_mem_cons, List.forall_mem_append]
      have he' : e ∈ ['-', '+', '.', 'e', 'E'] := by rcases he with rfl | rfl <;> decide
      refine ⟨hmark e he', fun c hc => hmark c ?_, hdigits ds hds⟩
      rcases hsign with rfl | rfl | rfl
      · cases hc
      · rw [List.mem_singleton.mp hc]
        decide
      · rw [List.mem_singleton.mp hc]
        decide

/-! ### Values -/

/-- The comma in front of an item, which the first item goes without. -/
inductive Comma : Bool → List Char → List Char → Prop
  | absent {text : List Char} : Comma true text text
  | present {text rest : List Char} (h : Spaces text (',' :: rest)) : Comma false text rest

mutual

/-- A value, and then the rest. -/
inductive Spelled : Json → List Char → List Char → Prop
  | null {rest : List Char} : Spelled .null ('n' :: 'u' :: 'l' :: 'l' :: rest) rest
  | boolTrue {rest : List Char} : Spelled (.bool true) ('t' :: 'r' :: 'u' :: 'e' :: rest) rest
  | boolFalse {rest : List Char} :
      Spelled (.bool false) ('f' :: 'a' :: 'l' :: 's' :: 'e' :: rest) rest
  | number {literal : String} {rest : List Char} (h : IsNumber literal.toList) :
      Spelled (.number literal) (literal.toList ++ rest) rest
  | string {s : String} {text rest : List Char} (h : StringBody s.toList text rest) :
      Spelled (.string s) ('"' :: text) rest
  | array {vs : List Json} {text rest : List Char} (h : ItemsSpelled true vs text rest) :
      Spelled (.array vs) ('[' :: text) rest
  | object {ms : List (String × Json)} {text rest : List Char}
      (h : MembersSpelled true ms text rest) : Spelled (.object ms) ('{' :: text) rest

/-- The items of a list after its bracket or after an item, the closing bracket, and then the
    rest. -/
inductive ItemsSpelled : Bool → List Json → List Char → List Char → Prop
  | done {first : Bool} {text rest : List Char} (h : Spaces text (']' :: rest)) :
      ItemsSpelled first [] text rest
  | item {first : Bool} {v : Json} {vs : List Json} {text t₁ t₂ t₃ rest : List Char}
      (hcomma : Comma first text t₁) (hspaces : Spaces t₁ t₂) (hvalue : Spelled v t₂ t₃)
      (h : ItemsSpelled false vs t₃ rest) : ItemsSpelled first (v :: vs) text rest

/-- The members of an object after its bracket or after a member, the closing bracket, and then the
    rest. -/
inductive MembersSpelled : Bool → List (String × Json) → List Char → List Char → Prop
  | done {first : Bool} {text rest : List Char} (h : Spaces text ('}' :: rest)) :
      MembersSpelled first [] text rest
  | member {first : Bool} {name : String} {v : Json} {ms : List (String × Json)}
      {text t₁ t₂ rest : List Char} (hcomma : Comma first text t₁)
      (hmember : MemberSpelled name v t₁ t₂) (h : MembersSpelled false ms t₂ rest) :
      MembersSpelled first ((name, v) :: ms) text rest

/-- A name, a colon and a value, and then the rest. -/
inductive MemberSpelled : String → Json → List Char → List Char → Prop
  | mk {name : String} {v : Json} {text t₁ t₂ t₃ t₄ rest : List Char}
      (hspaces : Spaces text ('"' :: t₁)) (hname : StringBody name.toList t₁ t₂)
      (hcolon : Spaces t₂ (':' :: t₃)) (hspaces' : Spaces t₃ t₄) (hvalue : Spelled v t₄ rest) :
      MemberSpelled name v text rest

end

/-! ### Lengths -/

theorem Comma.length_le {first : Bool} {text rest : List Char} (h : Comma first text rest) :
    rest.length ≤ text.length := by
  cases h with
  | absent => exact Nat.le_refl _
  | present h =>
    have hle := h.length_le
    rw [List.length_cons] at hle
    omega

/-- A number has at least one character. -/
theorem IsNumber.length_pos {text : List Char} (h : IsNumber text) : 0 < text.length := by
  obtain ⟨p, hp, rfl⟩ := h
  have hpos := List.length_pos_iff.mpr hp.whole.1.1
  simp only [NumberParts.text, List.length_append]
  omega

mutual

/-- A value takes something off the text. -/
theorem Spelled.length_lt {v : Json} {text rest : List Char} :
    Spelled v text rest → rest.length < text.length
  | .null | .boolTrue | .boolFalse => by
    simp only [List.length_cons]
    omega
  | .number h => by
    have hpos := h.length_pos
    rw [List.length_append]
    omega
  | .string h => by
    have hlt := h.length_lt
    rw [List.length_cons]
    omega
  | .array h => by
    have hlt := h.length_lt
    rw [List.length_cons]
    omega
  | .object h => by
    have hlt := h.length_lt
    rw [List.length_cons]
    omega

/-- The items of a list have at least its closing bracket. -/
theorem ItemsSpelled.length_lt {first : Bool} {vs : List Json} {text rest : List Char} :
    ItemsSpelled first vs text rest → rest.length < text.length
  | .done h => by
    have hle := h.length_le
    rw [List.length_cons] at hle
    omega
  | .item hcomma hspaces hvalue h => by
    have hcomma := hcomma.length_le
    have hspaces := hspaces.length_le
    have hvalue := hvalue.length_lt
    have hlt := h.length_lt
    omega

theorem MembersSpelled.length_lt {first : Bool} {ms : List (String × Json)}
    {text rest : List Char} : MembersSpelled first ms text rest → rest.length < text.length
  | .done h => by
    have hle := h.length_le
    rw [List.length_cons] at hle
    omega
  | .member hcomma hmember h => by
    have hcomma := hcomma.length_le
    have hmember := hmember.length_lt
    have hlt := h.length_lt
    omega

/-- A member has at least its quotes. -/
theorem MemberSpelled.length_lt {name : String} {v : Json} {text rest : List Char} :
    MemberSpelled name v text rest → rest.length < text.length
  | .mk hspaces hname hcolon hspaces' hvalue => by
    have hquote := hspaces.length_le
    have hname := hname.length_lt
    have hcolon := hcolon.length_le
    have hspaces := hspaces'.length_le
    have hvalue := hvalue.length_lt
    rw [List.length_cons] at hquote hcolon
    omega

end

/-! ### Documents -/

/-- The text is the value, with blanks around it. -/
def Document (v : Json) (text : List Char) : Prop :=
  ∃ start rest, Spaces text start ∧ Spelled v start rest ∧ Spaces rest []

end MarketFeed.Json
