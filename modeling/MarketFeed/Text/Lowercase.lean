import MarketFeed.Text.CaseTable

namespace MarketFeed.Text

/-!
# Lower-casing a whole text

Every letter of every script takes its lower-case form.  Two letters need more than the table:

* `İ` becomes an `i` followed by a combining dot.
* `Σ` becomes `ς` at the end of a word and `σ` elsewhere.  It ends a word when, past marks and
  apostrophes (`skipIgnorable`), a letter stands before it and none after it.

`lowercase` is the whole map; `lowerChar` is its part that looks at one character alone.
-/

/-! ### Single characters -/

/-- The lower-case form of a character that has one single lower-case form; the character itself
    otherwise. -/
def lowerChar (c : Char) : Char :=
  if c.toNat < 0x80 then c.toLower
  else
    match lowerRuns.find? fun r => r.covers c.toNat with
    | some r => Char.ofNat (c.toNat + r.shift).toNat
    | none => c

/-- The first character that is not case-ignorable is a cased letter. -/
def startsWithLetter (cs : List Char) : Bool :=
  match cs.dropWhile (inRanges caseIgnorableRanges) with
  | [] => false
  | c :: _ => inRanges casedRanges c

/-! ### Whole texts -/

/-- The lower-case form of `rest`, where `before` holds the characters already passed, the nearest
    first. -/
def lowerAfter (before : List Char) : List Char → List Char
  | [] => []
  | 'Σ' :: rest =>
      (if startsWithLetter before && !startsWithLetter rest then 'ς' else 'σ')
        :: lowerAfter ('Σ' :: before) rest
  | 'İ' :: rest => 'i' :: '\u0307' :: lowerAfter ('İ' :: before) rest
  | c :: rest => lowerChar c :: lowerAfter (c :: before) rest

/-- The text with every letter in its lower-case form. -/
def lowercase (s : String) : String := String.ofList (lowerAfter [] s.toList)

end MarketFeed.Text
