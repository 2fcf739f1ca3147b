import MarketFeed.Binary64

namespace MarketFeed.Json

/-!
# JSON numbers

* `Number` — a number as a reader takes it: an integer of 64 bits, signed or unsigned, or else a
  binary floating-point number.
* `Number.ofWhole` — the number for a run of digits alone.
* `takeWord` — the digits that fit one 64-bit word, and those left over.
-/

/-- A number of a text. -/
inductive Number
  | integer (value : Int)
  | real (negative : Bool) (magnitude : Binary64)
  deriving DecidableEq, Repr

/-- The number as messages show it. -/
def Number.text : Number → String
  | .integer value => toString value
  | .real negative magnitude => (if negative then "-" else "") ++ magnitude.text

/-- The value of a decimal digit. -/
def digitValue (c : Char) : Nat := c.toNat - 0x30

/-- Appends digits to `word` as long as the result fits 64 bits; gives it with the digits that are
    left. -/
def takeWord (word : Nat) : List Char → Nat × List Char
  | [] => (word, [])
  | d :: ds =>
    let next := word * 10 + digitValue d
    if next < UInt64.size then takeWord next ds else (word, d :: ds)

/-- The number of some digits without a fraction: a real number where no integer of 64 bits fits,
    and for a zero with a sign, whose sign an integer would lose. -/
def Number.ofWhole (negative : Bool) (word : Nat) : Number :=
  if !negative then .integer word
  else if word = 0 ∨ UInt64.size / 2 < word then
    .real true ((Binary64.ofRatio? word 1).getD Binary64.zero)
  else .integer (-(word : Int))

end MarketFeed.Json
