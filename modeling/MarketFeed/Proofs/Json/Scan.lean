import MarketFeed.Json.Skip
import MarketFeed.Proofs.Fallible
import MarketFeed.Proofs.Json.Grammar

namespace MarketFeed.Json

/-!
# Scanning what the grammar admits

The readers of single tokens agree with the grammar: given a text that begins with a token, they
take the token off and leave the rest.

* `Spaces.skip_eq`, `readWord_append` — blanks and words.
* `StringBody.readBody_eq` — string literals are read as the text they spell.
* `Ends`, `IsNumber.skip_eq` — a number literal is passed over when its text does not go on.
-/

variable {text rest : List Char}

/-! ### Blanks and words -/

/-- There are four blanks. -/
theorem isSpace_iff {c : Char} : isSpace c ↔ c = ' ' ∨ c = '\t' ∨ c = '\n' ∨ c = '\r' := by
  simp [isSpace, or_assoc]

/-- A blank is passed over. -/
theorem skipSpaces_cons_of_isSpace {c : Char} (hc : isSpace c) (text : List Char) :
    skipSpaces (c :: text) = skipSpaces text := by
  rw [skipSpaces, List.dropWhile_cons_of_pos hc, skipSpaces]

theorem skipSpaces_cons_of_not {c : Char} (hc : ¬ isSpace c) (text : List Char) :
    skipSpaces (c :: text) = c :: text := by
  rw [skipSpaces, List.dropWhile_cons_of_neg hc]

/-- Blanks in front make no difference to what is found behind blanks. -/
theorem Spaces.skipSpaces_eq (h : Spaces text rest) : skipSpaces text = skipSpaces rest := by
  induction h with
  | none => rfl
  | some hspace _ ih => rw [skipSpaces_cons_of_isSpace hspace, ih]

/-- A token is found behind the blanks in front of it. -/
theorem Spaces.skip_eq {c : Char} (h : Spaces text (c :: rest)) (hc : ¬ isSpace c) :
    skipSpaces text = c :: rest := by
  rw [h.skipSpaces_eq, skipSpaces_cons_of_not hc]

/-- Blanks up to the end of the text. -/
theorem Spaces.skip_nil (h : Spaces text []) : skipSpaces text = [] := by
  rw [h.skipSpaces_eq, skipSpaces_nil]

/-- A word is read where it stands. -/
theorem readWord_append (ws rest : List Char) : readWord ws (ws ++ rest) = .ok ((), rest) := by
  induction ws with
  | nil => rfl
  | cons w ws ih => rw [List.cons_append, readWord, if_pos rfl, ih]

/-! ### String literals -/

/-- A listed letter stands for its character. -/
theorem shortEscape?_of_mem {letter c : Char} (h : (letter, c) ∈ shortEscapes) :
    letter ≠ 'u' ∧ shortEscape? letter = some c := by
  simp only [shortEscapes, List.mem_cons, Prod.mk.injEq, List.not_mem_nil, or_false] at h
  rcases h with ⟨rfl, rfl⟩ | ⟨rfl, rfl⟩ | ⟨rfl, rfl⟩ | ⟨rfl, rfl⟩ | ⟨rfl, rfl⟩ | ⟨rfl, rfl⟩ |
    ⟨rfl, rfl⟩ | ⟨rfl, rfl⟩ <;> decide

/-- The code of a character is no half of a surrogate pair. -/
theorem not_isSurrogate (c : Char) :
    isHighSurrogate c.toNat = false ∧ isLowSurrogate c.toNat = false := by
  have hvalid : c.toNat < 0xD800 ∨ (0xDFFF < c.toNat ∧ c.toNat < 0x110000) := c.valid
  simp only [isHighSurrogate, isLowSurrogate, Bool.and_eq_false_iff, decide_eq_false_iff_not]
  omega

/-- Two halves stand for the character that they were made from. -/
theorem fromPair_eq {c : Char} {high low : Nat}
    (hc : c.toNat = 0x10000 + (high - 0xD800) * 0x400 + (low - 0xDC00)) :
    fromPair high low = c := by
  rw [fromPair, ← hc, Char.ofNat_toNat]

/-- A short escape is read as its character. -/
theorem readEscape_short {pairs : Bool} {letter c : Char} (h : (letter, c) ∈ shortEscapes)
    (rest : List Char) : readEscape pairs (letter :: rest) = .ok (c, rest) := by
  obtain ⟨hu, hc⟩ := shortEscape?_of_mem h
  simp only [readEscape, if_neg hu, hc]

/-- An escape of a character's code is read as the character. -/
theorem readEscape_unicode {pairs : Bool} {d₁ d₂ d₃ d₄ c : Char}
    (hword : hexWord? d₁ d₂ d₃ d₄ = some c.toNat) (rest : List Char) :
    readEscape pairs ('u' :: d₁ :: d₂ :: d₃ :: d₄ :: rest) = .ok (c, rest) := by
  obtain ⟨hhigh, hlow⟩ := not_isSurrogate c
  cases pairs <;> simp [readEscape, readHex, hword, hhigh, hlow]

/-- The two escapes of a surrogate pair are read as one character. -/
theorem readEscape_pair {d₁ d₂ d₃ d₄ e₁ e₂ e₃ e₄ c : Char} {high low : Nat}
    (hhigh : hexWord? d₁ d₂ d₃ d₄ = some high) (hlow : hexWord? e₁ e₂ e₃ e₄ = some low)
    (hhigh' : isHighSurrogate high) (hlow' : isLowSurrogate low)
    (hc : c.toNat = 0x10000 + (high - 0xD800) * 0x400 + (low - 0xDC00)) (rest : List Char) :
    readEscape true
        ('u' :: d₁ :: d₂ :: d₃ :: d₄ :: '\\' :: 'u' :: e₁ :: e₂ :: e₃ :: e₄ :: rest)
      = .ok (c, rest) := by
  -- the first half would be refused if it were a second half
  have hnot : isLowSurrogate high = false := by
    simp only [isHighSurrogate, isLowSurrogate, Bool.and_eq_true, decide_eq_true_eq,
      Bool.and_eq_false_iff, decide_eq_false_iff_not] at hhigh' ⊢
    omega
  simp [readEscape, readHex, readPairMark, hhigh, hlow, hhigh', hlow', hnot, fromPair_eq hc]

/-- Without `pairs` any four digits are an escape. -/
theorem readEscape_half {d₁ d₂ d₃ d₄ : Char} {n : Nat} (hword : hexWord? d₁ d₂ d₃ d₄ = some n)
    (rest : List Char) :
    readEscape false ('u' :: d₁ :: d₂ :: d₃ :: d₄ :: rest) = .ok (Char.ofNat n, rest) := by
  simp [readEscape, readHex, hword]

/-- An escape adds its character to those already seen. -/
theorem readBody_escape {pairs : Bool} {d : Char} {seen : List Char}
    (h : readEscape pairs text = .ok (d, rest)) :
    readBody pairs seen ('\\' :: text) = readBody pairs (d :: seen) rest := by
  rw [readBody, if_neg (by decide), if_pos rfl]
  split
  · rename_i d' rest' h'
    rw [h] at h'
    obtain ⟨rfl, rfl⟩ := Prod.mk.inj (Except.ok.inj h')
    rfl
  · rename_i e h'
    rw [h] at h'
    cases h'

/-- **A string literal is read as the text it spells.**  Without `pairs` the halves of a surrogate
    pair are read one by one, and only the rest is right. -/
theorem StringBody.readBody_eq {s : List Char} (h : StringBody s text rest) (pairs : Bool)
    (seen : List Char) :
    ∃ s', readBody pairs seen text = .ok (s', rest) ∧ (pairs → s' = seen.reverse ++ s) := by
  -- one case for each way to write a character, which is then among those seen
  induction h generalizing seen with
  | close =>
    refine ⟨seen.reverse, ?_, fun _ => (List.append_nil _).symm⟩
    rw [readBody, if_pos rfl]
  | @plain c s text rest hquote hslash hcontrol _ ih =>
    obtain ⟨s', hs', htext⟩ := ih (c :: seen)
    refine ⟨s', ?_, fun hpairs => by simp [htext hpairs]⟩
    rw [readBody, if_neg hquote, if_neg hslash, if_neg (Nat.not_lt.mpr hcontrol), hs']
  | @short letter c s text rest hshort _ ih =>
    obtain ⟨s', hs', htext⟩ := ih (c :: seen)
    refine ⟨s', ?_, fun hpairs => by simp [htext hpairs]⟩
    rw [readBody_escape (readEscape_short hshort text), hs']
  | @unicode d₁ d₂ d₃ d₄ c s text rest hword _ ih =>
    obtain ⟨s', hs', htext⟩ := ih (c :: seen)
    refine ⟨s', ?_, fun hpairs => by simp [htext hpairs]⟩
    rw [readBody_escape (readEscape_unicode hword text), hs']
  | @pair d₁ d₂ d₃ d₄ e₁ e₂ e₃ e₄ c high low s text rest hhigh hlow hhigh' hlow' hc _ ih =>
    cases pairs with
    | true =>
      obtain ⟨s', hs', htext⟩ := ih (c :: seen)
      refine ⟨s', ?_, fun hpairs => by simp [htext hpairs]⟩
      rw [readBody_escape (readEscape_pair hhigh hlow hhigh' hlow' hc text), hs']
    | false =>
      -- each half is an escape of its own here
      obtain ⟨s', hs', -⟩ := ih (Char.ofNat low :: Char.ofNat high :: seen)
      refine ⟨s', ?_, fun hpairs => by cases hpairs⟩
      rw [readBody_escape (readEscape_half hhigh _), readBody_escape (readEscape_half hlow _), hs']

/-- A string literal is read as the text it spells. -/
theorem StringBody.read_eq {s : List Char} (h : StringBody s text rest) :
    readBody true [] text = .ok (s, rest) := by
  obtain ⟨s', hs', htext⟩ := h.readBody_eq true []
  rw [hs', htext rfl, List.reverse_nil, List.nil_append]

/-- A string literal is passed over. -/
theorem StringBody.skip_eq {s : List Char} (h : StringBody s text rest) :
    skipBody text = .ok rest := by
  obtain ⟨s', hs', -⟩ := h.readBody_eq false []
  rw [skipBody, hs', map_ok]

/-! ### What may follow a value -/

/-- The text is over, or goes on with a blank, a comma or a closing bracket. -/
def Ends (rest : List Char) : Prop :=
  ∀ c ∈ rest.head?, isSpace c ∨ c = ',' ∨ c = ']' ∨ c = '}'

/-- What ends a value shows at its first character. -/
theorem Ends.cons_iff {c : Char} :
    Ends (c :: rest) ↔ isSpace c ∨ c = ',' ∨ c = ']' ∨ c = '}' := by
  simp [Ends]

/-- Blanks end a value. -/
theorem Spaces.ends (h : Spaces text rest) (hrest : Ends rest) : Ends text := by
  cases h with
  | none => exact hrest
  | some hspace _ => exact Ends.cons_iff.mpr (.inl hspace)

theorem Comma.ends (h : Comma false text rest) : Ends text := by
  cases h with
  | present h => exact h.ends (Ends.cons_iff.mpr (.inr (.inl rfl)))

theorem ItemsSpelled.ends {vs : List Json} (h : ItemsSpelled false vs text rest) : Ends text := by
  cases h with
  | done h => exact h.ends (Ends.cons_iff.mpr (.inr (.inr (.inl rfl))))
  | item hcomma _ _ _ => exact hcomma.ends

theorem MembersSpelled.ends {ms : List (String × Json)} (h : MembersSpelled false ms text rest) :
    Ends text := by
  cases h with
  | done h => exact h.ends (Ends.cons_iff.mpr (.inr (.inr (.inr rfl))))
  | member hcomma _ _ => exact hcomma.ends

/-- A number goes on with none of the characters that may follow a value. -/
theorem Ends.not_continues (h : Ends rest) :
    ∀ c ∈ rest.head?, c.isDigit = false ∧ c ≠ '.' ∧ c ≠ 'e' ∧ c ≠ 'E' := by
  intro c hc
  rcases h c hc with hs | rfl | rfl | rfl
  · rcases isSpace_iff.mp hs with rfl | rfl | rfl | rfl <;> decide
  all_goals decide

/-! ### Numbers -/

variable {ds : List Char}

/-- Digits are told from what follows them. -/
theorem leadingDigits_append (hds : ∀ d ∈ ds, d.isDigit)
    (hrest : ∀ c ∈ rest.head?, c.isDigit = false) :
    leadingDigits (ds ++ rest) = ds ∧ dropDigits (ds ++ rest) = rest := by
  -- nothing is taken off what follows, as it does not begin with a digit
  have hstop : rest.takeWhile Char.isDigit = [] ∧ rest.dropWhile Char.isDigit = rest := by
    cases rest with
    | nil => exact ⟨rfl, rfl⟩
    | cons c cs =>
      have hc : c.isDigit = false := hrest c rfl
      exact ⟨List.takeWhile_cons_of_neg (by simp [hc]), List.dropWhile_cons_of_neg (by simp [hc])⟩
  constructor
  · rw [leadingDigits, List.takeWhile_append_of_pos hds, hstop.1, List.append_nil]
  · rw [dropDigits, List.dropWhile_append_of_pos hds, hstop.2]

/-- Digits are passed over as a whole. -/
theorem IsDigits.skip_eq (hds : IsDigits ds) (hrest : ∀ c ∈ rest.head?, c.isDigit = false) :
    skipDigits (ds ++ rest) = .ok rest := by
  obtain ⟨hleading, hdrop⟩ := leadingDigits_append hds.2 hrest
  rw [skipDigits, hleading, hdrop, if_neg]
  rw [List.isEmpty_iff]
  exact hds.1

namespace NumberParts

variable {p : NumberParts}

/-- So is an exponent. -/
theorem Valid.skipPower_eq (h : p.Valid) (hrest : Ends rest) :
    skipPower (p.power ++ rest) = .ok rest := by
  rcases h.power with hp | ⟨e, sign, ds, hp, he, hsign, hds⟩
  · -- there is no exponent, and the rest does not look like one
    rw [hp, List.nil_append]
    unfold skipPower
    split
    · exact absurd rfl (hrest.not_continues 'e' rfl).2.2.1
    · exact absurd rfl (hrest.not_continues 'E' rfl).2.2.2
    · rfl
  · have htake : (takeSign (sign ++ ds ++ rest)).2 = ds ++ rest := by
      rcases hsign with rfl | rfl | rfl
      · -- a digit is no sign
        obtain ⟨hne, hdigit⟩ := hds
        cases ds with
        | nil => exact absurd rfl hne
        | cons d ds =>
          have hd := hdigit d List.mem_cons_self
          rw [List.nil_append, List.cons_append]
          unfold takeSign
          split
          · simp_all
          · simp_all
          · rfl
      · rfl
      · rfl
    have hskip := hds.skip_eq fun c hc => (hrest.not_continues c hc).1
    rcases he with rfl | rfl <;> rw [hp, List.cons_append, skipPower, htake, hskip]

/-- After its fraction a number goes on with no digit and no point. -/
theorem Valid.power_head (h : p.Valid) (hrest : Ends rest) :
    ∀ c ∈ (p.power ++ rest).head?, c.isDigit = false ∧ c ≠ '.' := by
  rcases h.power with hp | ⟨e, sign, ds, hp, he, -, -⟩
  · rw [hp]
    exact fun c hc => ⟨(hrest.not_continues c hc).1, (hrest.not_continues c hc).2.1⟩
  · rw [hp]
    intro c hc
    -- the exponent begins with its letter
    obtain rfl : e = c := Option.some.inj hc
    rcases he with rfl | rfl <;> decide

/-- After its whole part a number goes on with no digit. -/
theorem Valid.fraction_head (h : p.Valid) (hrest : Ends rest) :
    ∀ c ∈ (p.fraction ++ (p.power ++ rest)).head?, c.isDigit = false := by
  rcases h.fraction with hf | ⟨ds, hf, -⟩
  · rw [hf]
    exact fun c hc => (h.power_head hrest c hc).1
  · rw [hf]
    intro c hc
    obtain rfl : '.' = c := Option.some.inj hc
    rfl

/-- A number has no needless zero in front. -/
theorem Valid.not_hasLeadingZero (h : p.Valid) : hasLeadingZero p.whole = false := by
  by_cases hz : p.whole.head? = some '0'
  · rw [h.whole.2 hz]
    rfl
  · simp [hasLeadingZero, hz]

/-- **A number after its sign is passed over**, when what follows may follow a value. -/
theorem Valid.skipNumber_eq (h : p.Valid) (hrest : Ends rest) :
    skipNumber (p.whole ++ (p.fraction ++ (p.power ++ rest))) = .ok rest := by
  have hwhole := h.whole.1.skip_eq (h.fraction_head hrest)
  have hpower := h.skipPower_eq hrest
  rw [skipNumber, (leadingDigits_append h.whole.1.2 (h.fraction_head hrest)).1,
    h.not_hasLeadingZero, if_neg Bool.false_ne_true, hwhole, ok_bind]
  rcases h.fraction with hf | ⟨ds, hf, hds⟩
  · -- there is no fraction, and the power does not begin with a point
    rw [hf, List.nil_append]
    split
    · rename_i text htext
      exact absurd rfl (h.power_head hrest '.' (by rw [htext]; rfl)).2
    · exact hpower
  · have hfraction := hds.skip_eq fun c hc => (h.power_head hrest c hc).1
    rw [hf, List.cons_append]
    show (skipDigits (ds ++ (p.power ++ rest)) >>= fun r => skipPower r) = .ok rest
    rw [hfraction, ok_bind, hpower]

end NumberParts

/-- A number starts with its minus or with a digit. -/
def IsNumberHead (c : Char) : Prop := c = '-' ∨ c.isDigit

/-- A number begins with its minus or with a digit. -/
theorem IsNumber.head (h : IsNumber text) : ∃ c cs, text = c :: cs ∧ IsNumberHead c := by
  obtain ⟨p, hp, rfl⟩ := h
  obtain ⟨⟨hne, hdigit⟩, -⟩ := hp.whole
  rcases hp.sign with hs | hs
  · obtain ⟨d, ds, hw⟩ := List.exists_cons_of_ne_nil hne
    refine ⟨d, ds ++ p.fraction ++ p.power, by simp [NumberParts.text, hs, hw], .inr ?_⟩
    exact hdigit d (hw ▸ List.mem_cons_self)
  · exact ⟨'-', p.whole ++ p.fraction ++ p.power, by simp [NumberParts.text, hs], .inl rfl⟩

theorem IsNumberHead.ne {c d : Char} (hc : IsNumberHead c) (hd : d ≠ '-' ∧ d.isDigit = false) :
    c ≠ d := by
  rintro rfl
  rcases hc with hc | hc
  · exact hd.1 hc
  · exact absurd hc (by simp [hd.2])

theorem IsNumberHead.not_isSpace {c : Char} (hc : IsNumberHead c) : ¬ isSpace c := by
  rw [isSpace_iff]
  rintro (rfl | rfl | rfl | rfl) <;> exact absurd rfl (hc.ne (by decide))

/-- A number is passed over as a value without brackets. -/
theorem IsNumber.skip_eq (h : IsNumber text) (hrest : Ends rest) :
    skipScalar (text ++ rest) = .ok rest := by
  obtain ⟨c, cs, hcs, hc⟩ := h.head
  obtain ⟨p, hp, rfl⟩ := h
  have hskip := hp.skipNumber_eq hrest
  have htext : p.text ++ rest = p.sign ++ (p.whole ++ (p.fraction ++ (p.power ++ rest))) := by
    simp [NumberParts.text]
  rw [hcs, List.cons_append, skipScalar, if_neg (hc.ne (by decide)), if_neg (hc.ne (by decide)),
    if_neg (hc.ne (by decide)), if_neg (hc.ne (by decide))]
  rw [hcs, List.cons_append] at htext
  rcases hp.sign with hs | hs
  · -- without a minus the number is told by its first digit
    have hdigit : c.isDigit := by
      obtain ⟨⟨hne, hdigit⟩, -⟩ := hp.whole
      obtain ⟨d, ds, hd⟩ := List.exists_cons_of_ne_nil hne
      rw [hs, hd] at htext
      rw [(List.cons.inj htext).1]
      exact hdigit d (hd ▸ List.mem_cons_self)
    have hminus : c ≠ '-' := by
      rintro rfl
      exact absurd hdigit (by decide)
    rw [if_neg hminus, if_pos hdigit, htext, hs, List.nil_append, hskip]
  · rw [hs, List.cons_append, List.nil_append] at htext
    obtain ⟨rfl, hcs'⟩ := List.cons.inj htext
    rw [if_pos rfl, hcs', hskip]

end MarketFeed.Json
