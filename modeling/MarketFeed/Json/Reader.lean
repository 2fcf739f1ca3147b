import MarketFeed.Json.Fault
import MarketFeed.Text.Basic

namespace MarketFeed.Json

/-!
# Reading JSON — words, strings and numbers

A reader takes a value off the front of a text and gives it with the rest of the text, or stops at
the first fault.

* `Reader` — such a function.
* `skipSpaces`, `readWord` — blanks between tokens, and the words `null`, `true` and `false`.
* `readBody` — a string literal after its opening quote; `readEscape` is one escape in it.
* `readWhole` — a number after its sign, as a value; `skipNumber` passes over one of any size.

Each of them leaves a shorter text than it was given (`readBody_length`, `skipNumber_length`), which
is why reading ends.
-/

/-- Reads a value off the front of a text. -/
abbrev Reader := StateT (List Char) (Except Fault)

/-! ### Blanks and words -/

/-- The blanks that may stand between tokens. -/
def isSpace (c : Char) : Bool := c == ' ' || c == '\t' || c == '\n' || c == '\r'

/-- The text without the blanks in front. -/
def skipSpaces (cs : List Char) : List Char := cs.dropWhile isSpace

@[simp] theorem skipSpaces_nil : skipSpaces [] = [] := rfl

theorem skipSpaces_length (cs : List Char) : (skipSpaces cs).length ≤ cs.length :=
  (List.dropWhile_sublist isSpace).length_le

/-- Reads the given letters, the rest of a word whose first letter was seen. -/
def readWord : List Char → Reader Unit
  | [], cs => .ok ((), cs)
  | _ :: _, [] => .error (.endOfInput .value)
  | w :: ws, c :: cs => if c = w then readWord ws cs else .error .expectedWord

/-- To read a word makes a text no longer. -/
theorem readWord_length {ws cs rest : List Char} (h : readWord ws cs = .ok ((), rest)) :
    rest.length ≤ cs.length := by
  induction ws generalizing cs with
  | nil => cases h; exact Nat.le_refl _
  | cons w ws ih =>
    cases cs with
    | nil => cases h
    | cons c cs =>
      simp only [readWord] at h
      split at h
      · exact Nat.le_succ_of_le (ih h)
      · cases h

/-! ### Escapes -/

/-- The value of four hexadecimal digits. -/
def hexWord? (a b c d : Char) : Option Nat := do
  let high := (← Text.hexValue? a) * 16 + (← Text.hexValue? b)
  let low := (← Text.hexValue? c) * 16 + (← Text.hexValue? d)
  return high * 256 + low

/-- Reads the four digits of a `\u` escape.  A text that is too short for them ends early; otherwise
    they must be digits. -/
def readHex : Reader Nat
  | a :: b :: c :: d :: rest =>
    match hexWord? a b c d with
    | some n => .ok (n, rest)
    | none => .error .invalidEscape
  | cs => if Text.byteSize cs < 4 then .error (.endOfInput .string) else .error .invalidEscape

/-- The first half of a surrogate pair. -/
def isHighSurrogate (n : Nat) : Bool := 0xD800 ≤ n && n ≤ 0xDBFF

/-- The second half of a surrogate pair. -/
def isLowSurrogate (n : Nat) : Bool := 0xDC00 ≤ n && n ≤ 0xDFFF

/-- The character that a surrogate pair stands for. -/
def fromPair (high low : Nat) : Char :=
  Char.ofNat (0x10000 + (high - 0xD800) * 0x400 + (low - 0xDC00))

/-- Reads the `\u` that must follow the first half of a pair. -/
def readPairMark : Reader Unit
  | [] => .error (.endOfInput .string)
  | '\\' :: [] => .error (.endOfInput .string)
  | '\\' :: 'u' :: rest => .ok ((), rest)
  | _ => .error .unfinishedPair

/-- The character that a backslash and one letter stand for. -/
def shortEscape? (c : Char) : Option Char :=
  if c = '"' ∨ c = '\\' ∨ c = '/' then some c
  else if c = 'b' then some '\x08'
  else if c = 'f' then some '\x0c'
  else if c = 'n' then some '\n'
  else if c = 'r' then some '\r'
  else if c = 't' then some '\t'
  else none

/-- Reads one escape after its backslash.  With `pairs`, surrogates must come in pairs; without it
    the escape only has to be complete, and the character is of no account. -/
def readEscape (pairs : Bool) : Reader Char
  | [] => .error (.endOfInput .string)
  | c :: cs =>
    if c = 'u' then do
      let (n, rest) ← readHex cs
      if !pairs then .ok (Char.ofNat n, rest)
      else if isLowSurrogate n then .error .loneSurrogate
      else if isHighSurrogate n then do
        let (_, rest) ← readPairMark rest
        let (m, rest) ← readHex rest
        if isLowSurrogate m then .ok (fromPair n m, rest) else .error .loneSurrogate
      else .ok (Char.ofNat n, rest)
    else
      match shortEscape? c with
      | some d => .ok (d, cs)
      | none => .error .invalidEscape

/-- Four digits are taken off. -/
theorem readHex_length {cs rest : List Char} {n : Nat} (h : readHex cs = .ok (n, rest)) :
    rest.length < cs.length := by
  unfold readHex at h
  split at h
  · split at h
    · simp only [Except.ok.injEq, Prod.mk.injEq] at h
      obtain ⟨-, rfl⟩ := h
      simp only [List.length_cons]; omega
    · cases h
  · split at h <;> cases h

theorem readPairMark_length {cs rest : List Char} (h : readPairMark cs = .ok ((), rest)) :
    rest.length < cs.length := by
  unfold readPairMark at h
  split at h
  · cases h
  · cases h
  · simp only [Except.ok.injEq, Prod.mk.injEq, true_and] at h
    subst h
    simp only [List.length_cons]; omega
  · cases h

/-- An escape takes at least one character. -/
theorem readEscape_length {pairs : Bool} {cs rest : List Char} {c : Char}
    (h : readEscape pairs cs = .ok (c, rest)) : rest.length < cs.length := by
  cases cs with
  | nil => cases h
  | cons d cs =>
    simp only [readEscape] at h
    split at h
    · simp only [bind, Except.bind] at h
      split at h
      · cases h
      · rename_i p hp
        obtain ⟨n, r⟩ := p
        have hr := readHex_length hp
        simp only at h
        split at h
        · obtain ⟨-, rfl⟩ := Prod.mk.inj (Except.ok.inj h)
          simp only [List.length_cons]; omega
        · split at h
          · cases h
          · split at h
            · split at h
              · cases h
              · rename_i q hq
                have hq' := readPairMark_length hq
                split at h
                · cases h
                · rename_i s hs
                  have hs' := readHex_length hs
                  split at h
                  · obtain ⟨-, rfl⟩ := Prod.mk.inj (Except.ok.inj h)
                    simp only [List.length_cons]; omega
                  · cases h
            · obtain ⟨-, rfl⟩ := Prod.mk.inj (Except.ok.inj h)
              simp only [List.length_cons]; omega
    · split at h
      · obtain ⟨-, rfl⟩ := Prod.mk.inj (Except.ok.inj h)
        simp
      · cases h

/-! ### String literals -/

/-- Reads a string literal after its opening quote; `seen` holds the characters read so far, the
    last one first. -/
def readBody (pairs : Bool) (seen : List Char) (cs : List Char) :
    Except Fault (List Char × List Char) :=
  match cs with
  | [] => .error (.endOfInput .string)
  | c :: rest =>
    if c = '"' then .ok (seen.reverse, rest)
    else if c = '\\' then
      match _h : readEscape pairs rest with
      | .ok (d, rest') => readBody pairs (d :: seen) rest'
      | .error e => .error e
    else if c.toNat < 0x20 then .error .controlCharacter
    else readBody pairs (c :: seen) rest
termination_by cs.length
decreasing_by
  · have := readEscape_length _h
    simp only [List.length_cons]; omega
  · simp

/-- The rest of a string literal takes at least its closing quote. -/
theorem readBody_length {pairs : Bool} {seen cs text rest : List Char}
    (h : readBody pairs seen cs = .ok (text, rest)) : rest.length < cs.length := by
  fun_induction readBody pairs seen cs with
  | case1 => cases h
  | case2 => cases h; simp
  | case3 seen rest' d r he _ ih =>
    have := readEscape_length he
    have := ih h
    simp only [List.length_cons]; omega
  | case4 => cases h
  | case5 => cases h
  | case6 seen c rest' _ _ _ ih =>
    have := ih h
    simp only [List.length_cons]; omega

/-- Passes over a string literal after its opening quote. -/
def skipBody (cs : List Char) : Except Fault (List Char) := (readBody false [] cs).map Prod.snd

theorem skipBody_length {cs rest : List Char} (h : skipBody cs = .ok rest) :
    rest.length < cs.length := by
  unfold skipBody at h
  cases hb : readBody false [] cs with
  | error e => simp [hb, Except.map] at h
  | ok p =>
    simp only [hb, Except.map, Except.ok.injEq] at h
    subst h
    exact readBody_length hb

/-! ### Numbers -/

/-- The digits in front of a text. -/
def leadingDigits (cs : List Char) : List Char := cs.takeWhile Char.isDigit

/-- The text without the digits in front. -/
def dropDigits (cs : List Char) : List Char := cs.dropWhile Char.isDigit

theorem dropDigits_length (cs : List Char) : (dropDigits cs).length ≤ cs.length :=
  (List.dropWhile_sublist Char.isDigit).length_le

/-- The value of some digits. -/
def digitsValue (ds : List Char) : Nat := ds.foldl (fun n d => n * 10 + digitValue d) 0

/-- Whether a sign is there and is a minus, and the text after it. -/
def takeSign : List Char → Bool × List Char
  | '+' :: rest => (false, rest)
  | '-' :: rest => (true, rest)
  | cs => (false, cs)

/-- The real number `word · 10 ^ power`. -/
def finishReal (negative : Bool) (word : Nat) (power : Int) : Reader Number := fun rest =>
  match Binary64.scale? word power with
  | some x => .ok (.real negative x, rest)
  | none => .error .numberOutOfRange

/-- Reads the exponent of a number after its letter. -/
def readExponent (negative : Bool) (word : Nat) (power : Int) : Reader Number := fun cs =>
  let (down, cs) := takeSign cs
  match leadingDigits cs with
  | [] => .error (if cs.isEmpty then .endOfInput .value else .invalidNumber)
  | ds =>
    let n := digitsValue ds
    if n < UInt32.size / 2 then
      finishReal negative word (if down then power - n else power + n) (dropDigits cs)
    else if word ≠ 0 ∧ !down then .error .numberOutOfRange
    else .ok (.real negative Binary64.zero, dropDigits cs)

/-- Reads the exponent of a real number, if there is one. -/
def readPower (negative : Bool) (word : Nat) (power : Int) : Reader Number
  | 'e' :: rest => readExponent negative word power rest
  | 'E' :: rest => readExponent negative word power rest
  | cs => finishReal negative word power cs

/-- Reads the fraction of a number after its point.  Digits beyond a 64-bit word are dropped. -/
def readFraction (negative : Bool) (word : Nat) (power : Int) : Reader Number := fun cs =>
  match leadingDigits cs with
  | [] => .error (if cs.isEmpty then .endOfInput .value else .invalidNumber)
  | ds =>
    let (word', left) := takeWord word ds
    readPower negative word' (power - (ds.length - left.length : Nat)) (dropDigits cs)

/-- No digit follows a leading zero. -/
def hasLeadingZero (ds : List Char) : Bool := ds.head? == some '0' && 1 < ds.length

/-- Reads a number after its sign. -/
def readWhole (negative : Bool) : Reader Number := fun cs =>
  match leadingDigits cs with
  | [] => .error (if cs.isEmpty then .endOfInput .value else .invalidNumber)
  | ds =>
    if hasLeadingZero ds then .error .invalidNumber
    else
      let (word, left) := takeWord 0 ds
      match dropDigits cs with
      | '.' :: rest => readFraction negative word left.length rest
      | rest =>
        if left.isEmpty && !(rest.head? == some 'e' || rest.head? == some 'E') then
          .ok (Number.ofWhole negative word, rest)
        else readPower negative word left.length rest

/-- Passes over at least one digit. -/
def skipDigits (cs : List Char) : Except Fault (List Char) :=
  if (leadingDigits cs).isEmpty then .error .invalidNumber else .ok (dropDigits cs)

/-- Passes over an exponent, if there is one. -/
def skipPower : List Char → Except Fault (List Char)
  | 'e' :: rest => skipDigits (takeSign rest).2
  | 'E' :: rest => skipDigits (takeSign rest).2
  | cs => .ok cs

/-- Passes over a number after its sign. -/
def skipNumber (cs : List Char) : Except Fault (List Char) := do
  if hasLeadingZero (leadingDigits cs) then .error .invalidNumber
  else
    match ← skipDigits cs with
    | '.' :: rest => skipPower (← skipDigits rest)
    | rest => skipPower rest

/-- A number has at least one digit where digits must be. -/
theorem skipDigits_length {cs rest : List Char} (h : skipDigits cs = .ok rest) :
    rest.length < cs.length := by
  unfold skipDigits at h
  split at h
  · cases h
  · rename_i hd
    cases h
    cases cs with
    | nil => simp [leadingDigits] at hd
    | cons c cs =>
      cases hc : c.isDigit with
      | false => simp [leadingDigits, hc] at hd
      | true =>
        have := dropDigits_length cs
        simpa [dropDigits, hc] using Nat.lt_succ_of_le this

theorem takeSign_length (cs : List Char) : (takeSign cs).2.length ≤ cs.length := by
  unfold takeSign
  split <;> simp

theorem skipPower_length {cs rest : List Char} (h : skipPower cs = .ok rest) :
    rest.length ≤ cs.length := by
  unfold skipPower at h
  split at h
  · rename_i r
    have := skipDigits_length h
    have := takeSign_length r
    simp only [List.length_cons]; omega
  · rename_i r
    have := skipDigits_length h
    have := takeSign_length r
    simp only [List.length_cons]; omega
  · cases h; exact Nat.le_refl _

/-- A number takes at least one character. -/
theorem skipNumber_length {cs rest : List Char} (h : skipNumber cs = .ok rest) :
    rest.length < cs.length := by
  unfold skipNumber at h
  split at h
  · cases h
  · simp only [bind, Except.bind] at h
    split at h
    · cases h
    · rename_i r hr
      have hr' := skipDigits_length hr
      split at h
      · split at h
        · cases h
        · rename_i s hs
          have := skipDigits_length hs
          have := skipPower_length h
          simp only [List.length_cons] at hr'; omega
      · have := skipPower_length h
        omega

end MarketFeed.Json
