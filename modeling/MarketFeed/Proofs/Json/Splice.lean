import MarketFeed.Proofs.Json.Unique

namespace MarketFeed.Json

/-!
# Texts set between quotes as they are

A text that is no proper inside of a string literal can end the literal early, or keep it open
beyond its closing quote.  Either way the JSON text around it is not what it was meant to be.

* `IsLegal` — the text makes one string literal when it is set between quotes.
* `StringBody.split` — where a literal stands when it comes to a given place.
* `isLegal_append_cons_iff` — a legal text is legal on both sides of a separator.
* `IsTail` — what may follow the closing quote: members that begin and end as they should.
* `MembersSpelled.count_lt` — an object in which the closing quote closes another literal has more
  members than it was meant to have.
* `StringBody.isLegal` — so in an object with as many members as were meant the text is legal.
-/

variable {a b s s₁ s₂ text rest tail : List Char}

/-- Between quotes the text is one string literal. -/
def IsLegal (text : List Char) : Prop := ∃ s, StringBody s (text ++ ['"']) []

/-! ### Going through a literal -/

/-- A token without some character lies before every occurrence of it. -/
theorem exists_of_append_eq {x : Char} {token : List Char} (hx : x ∉ token)
    (h : token ++ text = a ++ x :: b) : ∃ a', a = token ++ a' ∧ text = a' ++ x :: b := by
  rcases List.append_eq_append_iff.mp h with ⟨a', ha, htext⟩ | ⟨c, htoken, hb⟩
  · exact ⟨a', ha, htext⟩
  · cases c with
    | nil => exact ⟨[], by rw [htoken]; simp, hb.symm⟩
    | cons d c =>
      obtain ⟨rfl, -⟩ := List.cons.inj hb
      exact absurd (htoken ▸ List.mem_append_right a List.mem_cons_self) hx

/-- The characters of an escape that are given by their code. -/
def IsCodeChar (c : Char) : Prop := c = '\\' ∨ c = 'u' ∨ (Text.hexValue? c).isSome

/-- A quote is no part of an escape. -/
theorem not_isCodeChar_quote : ¬ IsCodeChar '"' := by
  unfold IsCodeChar
  decide

/-- Each digit of an escape is a part of it. -/
theorem isCodeChar_of_mem {d₁ d₂ d₃ d₄ x : Char} {n : Nat}
    (hword : hexWord? d₁ d₂ d₃ d₄ = some n) (hx : x ∈ ['\\', 'u', d₁, d₂, d₃, d₄]) :
    IsCodeChar x := by
  simp only [hexWord?, bind, Option.bind_eq_some_iff] at hword
  obtain ⟨n₁, h₁, n₂, h₂, n₃, h₃, n₄, h₄, -⟩ := hword
  simp only [List.mem_cons, List.not_mem_nil, or_false] at hx
  rcases hx with rfl | rfl | rfl | rfl | rfl | rfl
  · exact .inl rfl
  · exact .inr (.inl rfl)
  · exact .inr (.inr (by rw [h₁]; rfl))
  · exact .inr (.inr (by rw [h₂]; rfl))
  · exact .inr (.inr (by rw [h₃]; rfl))
  · exact .inr (.inr (by rw [h₄]; rfl))

/-- The character at a place belongs to an escape that began before it. -/
def InEscape (x : Char) (b rest : List Char) : Prop :=
  IsCodeChar x ∨ ((∃ c, (x, c) ∈ shortEscapes) ∧ ∃ s, StringBody s b rest)

/-- **Where a literal stands at a place.**  It has ended before it, or everything before it is legal
    and the literal goes on from it, or an escape leads across it. -/
theorem StringBody.split {x : Char} (h : StringBody s text rest) (htext : text = a ++ x :: b) :
    (∃ a₁ a₂, a = a₁ ++ '"' :: a₂ ∧ rest = a₂ ++ x :: b) ∨
    (IsLegal a ∧ ∃ s', StringBody s' (x :: b) rest) ∨ InEscape x b rest := by
  -- one token of the literal at a time, which lies before the place or across it
  induction h generalizing a with
  | @close rest =>
    cases a with
    | nil =>
      rw [List.nil_append] at htext
      exact .inr (.inl ⟨⟨[], .close⟩, [], htext ▸ .close⟩)
    | cons c a =>
      obtain ⟨rfl, rfl⟩ := List.cons.inj htext
      exact .inl ⟨[], a, rfl, rfl⟩
  | @plain c s text rest hquote hslash hcontrol h ih =>
    cases a with
    | nil =>
      rw [List.nil_append] at htext
      exact .inr (.inl ⟨⟨[], .close⟩, c :: s, htext ▸ .plain hquote hslash hcontrol h⟩)
    | cons d a =>
      obtain ⟨rfl, htext'⟩ := List.cons.inj htext
      rcases ih htext' with ⟨a₁, a₂, rfl, hrest⟩ | ⟨⟨s₁, hs₁⟩, hb⟩ | hescape
      · exact .inl ⟨c :: a₁, a₂, rfl, hrest⟩
      · exact .inr (.inl ⟨⟨c :: s₁, .plain hquote hslash hcontrol hs₁⟩, hb⟩)
      · exact .inr (.inr hescape)
  | @short letter c s text rest hshort h ih =>
    match a, htext with
    | [], htext =>
      rw [List.nil_append] at htext
      exact .inr (.inl ⟨⟨[], .close⟩, c :: s, htext ▸ .short hshort h⟩)
    | [d], htext =>
      -- the backslash comes before the place, and its letter is there
      obtain ⟨-, htext'⟩ := List.cons.inj htext
      obtain ⟨rfl, rfl⟩ := List.cons.inj htext'
      exact .inr (.inr (.inr ⟨⟨c, hshort⟩, s, h⟩))
    | d :: e :: a, htext =>
      obtain ⟨rfl, htext'⟩ := List.cons.inj htext
      obtain ⟨rfl, htext''⟩ := List.cons.inj htext'
      rcases ih htext'' with ⟨a₁, a₂, rfl, hrest⟩ | ⟨⟨s₁, hs₁⟩, hb⟩ | hescape
      · exact .inl ⟨'\\' :: letter :: a₁, a₂, rfl, hrest⟩
      · exact .inr (.inl ⟨⟨c :: s₁, .short hshort hs₁⟩, hb⟩)
      · exact .inr (.inr hescape)
  | @unicode d₁ d₂ d₃ d₄ c s text rest hword h ih =>
    by_cases hx : x ∈ ['\\', 'u', d₁, d₂, d₃, d₄]
    · exact .inr (.inr (.inl (isCodeChar_of_mem hword hx)))
    · obtain ⟨a', rfl, htext'⟩ := exists_of_append_eq hx htext
      rcases ih htext' with ⟨a₁, a₂, rfl, hrest⟩ | ⟨⟨s₁, hs₁⟩, hb⟩ | hescape
      · exact .inl ⟨['\\', 'u', d₁, d₂, d₃, d₄] ++ a₁, a₂, by simp, hrest⟩
      · exact .inr (.inl ⟨⟨c :: s₁, .unicode hword hs₁⟩, hb⟩)
      · exact .inr (.inr hescape)
  | @pair d₁ d₂ d₃ d₄ e₁ e₂ e₃ e₄ c high low s text rest hhigh hlow hhigh' hlow' hc h ih =>
    by_cases hx : x ∈ ['\\', 'u', d₁, d₂, d₃, d₄] ++ ['\\', 'u', e₁, e₂, e₃, e₄]
    · rcases List.mem_append.mp hx with hx | hx
      · exact .inr (.inr (.inl (isCodeChar_of_mem hhigh hx)))
      · exact .inr (.inr (.inl (isCodeChar_of_mem hlow hx)))
    · obtain ⟨a', rfl, htext'⟩ := exists_of_append_eq hx htext
      rcases ih htext' with ⟨a₁, a₂, rfl, hrest⟩ | ⟨⟨s₁, hs₁⟩, hb⟩ | hescape
      · exact .inl ⟨['\\', 'u', d₁, d₂, d₃, d₄] ++ ['\\', 'u', e₁, e₂, e₃, e₄] ++ a₁, a₂, by simp,
          hrest⟩
      · exact .inr (.inl ⟨⟨c :: s₁, .pair hhigh hlow hhigh' hlow' hc hs₁⟩, hb⟩)
      · exact .inr (.inr hescape)

/-! ### Legal texts -/

/-- So an escape has no quote in it. -/
theorem quote_not_mem_escape {d₁ d₂ d₃ d₄ : Char} {n : Nat}
    (hword : hexWord? d₁ d₂ d₃ d₄ = some n) : '"' ∉ ['\\', 'u', d₁, d₂, d₃, d₄] := by
  intro hx
  exact not_isCodeChar_quote (isCodeChar_of_mem hword hx)

/-- A literal goes on after a legal text. -/
theorem IsLegal.append_body (h : IsLegal a) (hs : StringBody s text rest) :
    ∃ s', StringBody s' (a ++ text) rest := by
  obtain ⟨s₁, hs₁⟩ := h
  generalize htext : a ++ ['"'] = t at hs₁
  generalize hrest : ([] : List Char) = r at hs₁
  induction hs₁ generalizing a with
  | @close rest' =>
    cases a with
    | nil => exact ⟨s, hs⟩
    | cons c a =>
      obtain ⟨-, htext'⟩ := List.cons.inj htext
      rw [← hrest] at htext'
      simp at htext'
  | @plain c s' text' rest' hquote hslash hcontrol _ ih =>
    cases a with
    | nil => exact absurd (List.cons.inj htext).1.symm hquote
    | cons d a =>
      obtain ⟨rfl, htext'⟩ := List.cons.inj htext
      obtain ⟨s'', hs''⟩ := ih htext' hrest
      exact ⟨d :: s'', .plain hquote hslash hcontrol hs''⟩
  | @short letter c s' text' rest' hshort h ih =>
    match a, htext with
    | [], htext => cases (List.cons.inj htext).1
    | [d], htext =>
      -- an escaped quote does not end a literal
      obtain ⟨-, htext'⟩ := List.cons.inj htext
      obtain ⟨-, rfl⟩ := List.cons.inj htext'
      cases h
    | d :: e :: a, htext =>
      obtain ⟨rfl, htext'⟩ := List.cons.inj htext
      obtain ⟨rfl, htext''⟩ := List.cons.inj htext'
      obtain ⟨s'', hs''⟩ := ih htext'' hrest
      exact ⟨c :: s'', .short hshort hs''⟩
  | @unicode d₁ d₂ d₃ d₄ c s' text' rest' hword _ ih =>
    obtain ⟨a', rfl, htext'⟩ := exists_of_append_eq (quote_not_mem_escape hword) htext.symm
    obtain ⟨s'', hs''⟩ := ih htext'.symm hrest
    exact ⟨c :: s'', .unicode hword hs''⟩
  | @pair d₁ d₂ d₃ d₄ e₁ e₂ e₃ e₄ c high low s' text' rest' hhigh hlow hhigh' hlow' hc _ ih =>
    have hquote : '"' ∉ ['\\', 'u', d₁, d₂, d₃, d₄] ++ ['\\', 'u', e₁, e₂, e₃, e₄] := by
      rw [List.mem_append, not_or]
      exact ⟨quote_not_mem_escape hhigh, quote_not_mem_escape hlow⟩
    obtain ⟨a', rfl, htext'⟩ := exists_of_append_eq hquote htext.symm
    obtain ⟨s'', hs''⟩ := ih htext'.symm hrest
    exact ⟨c :: s'', .pair hhigh hlow hhigh' hlow' hc hs''⟩

/-- The character stands for itself wherever it stands: it belongs to no escape. -/
structure IsSeparator (c : Char) : Prop where
  quote : c ≠ '"'
  control : 0x20 ≤ c.toNat
  code : ¬ IsCodeChar c
  letter : ∀ p ∈ shortEscapes, p.1 ≠ c

/-- **A text is legal when it is legal on both sides of a separator.** -/
theorem isLegal_append_cons_iff {c : Char} (hc : IsSeparator c) :
    IsLegal (a ++ c :: b) ↔ IsLegal a ∧ IsLegal b := by
  have hslash : c ≠ '\\' := fun h => hc.code (.inl h)
  constructor
  · rintro ⟨s, hs⟩
    rcases hs.split (List.append_assoc a (c :: b) ['"']) with ⟨a₁, a₂, -, hrest⟩ | ⟨ha, s', hs'⟩ |
      hcode | ⟨⟨d, hd⟩, -⟩
    · simp at hrest
    · refine ⟨ha, ?_⟩
      generalize htext : c :: (b ++ ['"']) = t at hs'
      cases hs' with
      | close => exact absurd (List.cons.inj htext).1 hc.quote
      | plain _ _ _ h => exact ⟨_, (List.cons.inj htext).2 ▸ h⟩
      | _ => exact absurd (List.cons.inj htext).1 hslash
    · exact absurd hcode hc.code
    · exact absurd rfl (hc.letter _ hd)
  · rintro ⟨ha, s, hs⟩
    have hbody := ha.append_body (.plain hc.quote hslash hc.control hs)
    rwa [← List.cons_append, ← List.append_assoc] at hbody

/-! ### The rest of an object -/

/-- Nothing that continues an enclosure follows. -/
def IsStuck (rest : List Char) : Prop :=
  ∀ c r, Spaces rest (c :: r) → c ≠ ',' ∧ c ≠ ':' ∧ c ≠ ']' ∧ c ≠ '}'

/-- What follows a closing quote: `count` members and the end of the object.  Read in any other way
    it makes no sense. -/
structure IsTail (tail : List Char) (count : Nat) : Prop where
  /-- Inside a literal it leads to a place where nothing fits. -/
  body : ∀ s r, StringBody s tail r → IsStuck r
  items : ∀ vs r, ¬ ItemsSpelled false vs tail r
  colon : ∀ r, ¬ Spaces tail (':' :: r)
  members : ∀ ms r, MembersSpelled false ms tail r → ms.length = count ∧ r = []

/-- The closing quote, with the tail behind it, is still to come. -/
def Reaches (tail text : List Char) : Prop := ∃ a, text = a ++ '"' :: tail

theorem IsStuck.nil : IsStuck [] := by
  intro c r h
  cases h

/-- No enclosure goes on where nothing fits. -/
theorem IsStuck.not_items {vs : List Json} (h : IsStuck text) :
    ¬ ItemsSpelled false vs text rest := by
  intro hvs
  cases hvs with
  | done hend => exact (h _ _ hend).2.2.1 rfl
  | item hcomma _ _ _ =>
    cases hcomma with
    | present hcomma => exact (h _ _ hcomma).1 rfl

/-- No object goes on where nothing fits. -/
theorem IsStuck.not_members {ms : List (String × Json)} (h : IsStuck text) :
    ¬ MembersSpelled false ms text rest := by
  intro hms
  cases hms with
  | done hend => exact (h _ _ hend).2.2.2 rfl
  | member hcomma _ _ =>
    cases hcomma with
    | present hcomma => exact (h _ _ hcomma).1 rfl

/-! ### Coming to the closing quote -/

namespace Reaches

/-- A token without quotes leaves the closing quote to come. -/
theorem append {token : List Char} (hquote : '"' ∉ token) (h : Reaches tail (token ++ text)) :
    Reaches tail text := by
  obtain ⟨a, ha⟩ := h
  obtain ⟨a', -, htext⟩ := exists_of_append_eq hquote ha
  exact ⟨a', htext⟩

theorem cons {c : Char} (hc : c ≠ '"') (h : Reaches tail (c :: text)) : Reaches tail text := by
  have hquote : '"' ∉ [c] := by simpa using Ne.symm hc
  exact append hquote h

theorem spaces (hspaces : Spaces text rest) (h : Reaches tail text) : Reaches tail rest := by
  induction hspaces with
  | none => exact h
  | some hspace _ ih =>
    apply ih
    apply h.cons
    rintro rfl
    exact absurd hspace (by decide)

theorem comma {first : Bool} (hcomma : Comma first text rest) (h : Reaches tail text) :
    Reaches tail rest := by
  cases hcomma with
  | absent => exact h
  | present hspaces => exact (h.spaces hspaces).cons (by decide)

/-- Blanks do not hold the closing quote. -/
theorem not_spaces_nil (h : Reaches tail text) : ¬ Spaces text [] := by
  intro hspaces
  obtain ⟨a, ha⟩ := h.spaces hspaces
  simp at ha

variable {count : Nat}

/-- A literal ends before the closing quote, or with it, or where nothing fits. -/
theorem body (htail : IsTail tail count) (hs : StringBody s text rest) (h : Reaches tail text) :
    Reaches tail rest ∨ rest = tail ∨ IsStuck rest := by
  obtain ⟨a, ha⟩ := h
  rcases hs.split ha with ⟨a₁, a₂, -, hrest⟩ | ⟨-, s', hs'⟩ | hcode | ⟨-, s', hs'⟩
  · exact .inl ⟨a₂, hrest⟩
  · generalize htext : '"' :: tail = t at hs'
    cases hs' with
    | close => exact .inr (.inl (List.cons.inj htext).2.symm)
    | plain hquote _ _ _ => exact absurd (List.cons.inj htext).1.symm hquote
    | _ => cases (List.cons.inj htext).1
  · exact absurd hcode not_isCodeChar_quote
  · exact .inr (.inr (htail.body s' rest hs'))

/-- A literal with its opening quote ends before the closing quote, or with it, or where nothing
    fits. -/
theorem literal (htail : IsTail tail count) (hs : StringBody s text rest)
    (h : Reaches tail ('"' :: text)) : Reaches tail rest ∨ rest = tail ∨ IsStuck rest := by
  obtain ⟨a, ha⟩ := h
  cases a with
  | nil =>
    -- the closing quote opens the literal
    obtain ⟨-, rfl⟩ := List.cons.inj ha
    exact .inr (.inr (htail.body s rest hs))
  | cons c a =>
    obtain ⟨-, ha'⟩ := List.cons.inj ha
    exact body htail hs ⟨a, ha'⟩

end Reaches

/-- A number has no quotes. -/
theorem IsNumber.quote_not_mem {literal : List Char} (h : IsNumber literal) : '"' ∉ literal := by
  intro hmem
  have hdigit : ∀ c : Char, c.isDigit → c ≠ '"' := by
    rintro c hc rfl
    exact absurd hc (by decide)
  exact h.forall_mem hdigit (by simp) _ hmem rfl

section Crossing

variable {count : Nat} (htail : IsTail tail count)

include htail

mutual

/-- A value ends before the closing quote, or with it, or where nothing fits. -/
theorem Spelled.reaches {v : Json} {text rest : List Char} :
    Spelled v text rest → Reaches tail text → Reaches tail rest ∨ rest = tail ∨ IsStuck rest
  | .null, h => .inl (Reaches.append (show '"' ∉ "null".toList by decide) h)
  | .boolTrue, h => .inl (Reaches.append (show '"' ∉ "true".toList by decide) h)
  | .boolFalse, h => .inl (Reaches.append (show '"' ∉ "false".toList by decide) h)
  | .number hnumber, h => .inl (h.append hnumber.quote_not_mem)
  | .string hs, h => h.literal htail hs
  | .array hvs, h => .inl (hvs.reaches (h.cons (by decide)))
  | .object hms, h => by
    rcases hms.reaches (h.cons (by decide)) with hrest | hrest
    · exact .inl hrest
    · exact .inr (.inr hrest)

/-- The items of a list end before the closing quote. -/
theorem ItemsSpelled.reaches {first : Bool} {vs : List Json} {text rest : List Char} :
    ItemsSpelled first vs text rest → Reaches tail text → Reaches tail rest
  | .done hend, h => (h.spaces hend).cons (by decide)
  | .item hcomma hspaces hvalue hvs, h => by
    rcases hvalue.reaches ((h.comma hcomma).spaces hspaces) with hrest | rfl | hstuck
    · exact hvs.reaches hrest
    · -- an item that ends with the closing quote has no list around it
      exact absurd hvs (htail.items _ _)
    · exact absurd hvs hstuck.not_items

/-- The members of an object end before the closing quote, or where nothing fits. -/
theorem MembersSpelled.reaches {first : Bool} {ms : List (String × Json)} {text rest : List Char} :
    MembersSpelled first ms text rest → Reaches tail text → Reaches tail rest ∨ IsStuck rest
  | .done hend, h => .inl ((h.spaces hend).cons (by decide))
  | .member hcomma hmember hms, h => by
    rcases hmember.reaches (h.comma hcomma) with hrest | rfl | hstuck
    · exact hms.reaches hrest
    · -- the members that were meant belong to this object, and end the text
      obtain ⟨-, rfl⟩ := htail.members _ _ hms
      exact .inr .nil
    · exact absurd hms hstuck.not_members

/-- A member ends before the closing quote, or with it, or where nothing fits. -/
theorem MemberSpelled.reaches {name : String} {v : Json} {text rest : List Char} :
    MemberSpelled name v text rest → Reaches tail text →
      Reaches tail rest ∨ rest = tail ∨ IsStuck rest
  | .mk hspaces hname hcolon hspaces' hvalue, h => by
    rcases (h.spaces hspaces).literal htail hname with hrest | rfl | hstuck
    · exact hvalue.reaches (((hrest.spaces hcolon).cons (by decide)).spaces hspaces')
    · exact absurd hcolon (htail.colon _)
    · exact absurd rfl (hstuck _ _ hcolon).2.1

end

/-- **An object in which the closing quote closes another literal has too many members.** -/
theorem MembersSpelled.count_lt {ms : List (String × Json)} {text rest : List Char}
    (hms : MembersSpelled false ms text rest) (h : Reaches tail text) (hrest : Spaces rest []) :
    count < ms.length := by
  induction ms generalizing text with
  | nil =>
    cases hms with
    | done hend =>
      have hrest' := (h.spaces hend).cons (by decide)
      exact absurd hrest hrest'.not_spaces_nil
  | cons m ms ih =>
    cases hms with
    | member hcomma hmember hms =>
      rw [List.length_cons]
      rcases hmember.reaches htail (h.comma hcomma) with hreaches | rfl | hstuck
      · have hlt := ih hms hreaches
        omega
      · -- the closing quote ends this member, so the meant ones come after it
        have hlength := (htail.members _ _ hms).1
        omega
      · exact absurd hms hstuck.not_members

/-- **A text between quotes is one literal when the members behind it are as many as were meant.** -/
theorem StringBody.isLegal {ms : List (String × Json)} {r : List Char}
    (hs : StringBody s (text ++ '"' :: tail) r) (hms : MembersSpelled false ms r rest)
    (hrest : Spaces rest []) (hcount : ms.length = count) : IsLegal text := by
  rcases hs.split rfl with ⟨a₁, a₂, -, hr⟩ | ⟨hlegal, -⟩ | hcode | ⟨-, s', hs'⟩
  · -- the literal ends inside the text
    have hlt := hms.count_lt htail ⟨a₂, hr⟩ hrest
    omega
  · exact hlegal
  · exact absurd hcode not_isCodeChar_quote
  · -- the text leaves an escape open, which takes the closing quote
    exact absurd hms (htail.body s' r hs').not_members

end Crossing

end MarketFeed.Json
