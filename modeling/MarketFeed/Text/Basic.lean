namespace MarketFeed.Text

/-!
# Code points, digits and byte positions

* `inRanges` — membership of a character in a list of closed ranges of code points, the form in
  which properties of characters are kept.
* `decimalValue` — the number that decimal digits stand for.
* `hexDigits`, `hexValue?` — a number in lower-case hexadecimal digits, as few as it needs, and the
  value of one digit of either case.
* `byteSize`, `slice?` — texts are lists of characters here, and some positions in them are counted
  in bytes of UTF-8: the length of a text, and the part of it between two positions.
-/

/-! ### Code points -/

/-- The character lies in one of the closed ranges. -/
def inRanges (ranges : List (Nat × Nat)) (c : Char) : Bool :=
  ranges.any fun r => r.1 ≤ c.toNat && c.toNat ≤ r.2

@[simp] theorem inRanges_nil (c : Char) : inRanges [] c = false := rfl

@[simp] theorem inRanges_cons (r : Nat × Nat) (ranges : List (Nat × Nat)) (c : Char) :
    inRanges (r :: ranges) c = ((r.1 ≤ c.toNat && c.toNat ≤ r.2) || inRanges ranges c) := rfl

/-! ### Digits -/

/-- The number that some decimal digits stand for. -/
def decimalValue (ds : List Char) : Nat := ds.foldl (fun n d => n * 10 + (d.toNat - 0x30)) 0

/-- The lower-case hexadecimal digits of a number. -/
def hexDigits (n : Nat) : List Char := Nat.toDigits 16 n

/-- The value of a hexadecimal digit. -/
def hexValue? (c : Char) : Option Nat :=
  if c.isDigit then some (c.toNat - 0x30)
  else if 'a' ≤ c ∧ c ≤ 'f' then some (c.toNat - 0x57)
  else if 'A' ≤ c ∧ c ≤ 'F' then some (c.toNat - 0x37)
  else none

/-! ### Byte positions -/

/-- The length of a text in bytes. -/
def byteSize : List Char → Nat
  | [] => 0
  | c :: cs => c.utf8Size + byteSize cs

@[simp] theorem byteSize_nil : byteSize [] = 0 := rfl

@[simp] theorem byteSize_cons (c : Char) (cs : List Char) :
    byteSize (c :: cs) = c.utf8Size + byteSize cs := rfl

/-- The characters of a text from byte `first` to byte `last`; `none` where a position falls inside
    a character. -/
def slice? (cs : List Char) (first last : Nat) : Option (List Char) :=
  match cs with
  | [] => if first = 0 ∧ last = 0 then some [] else none
  | c :: rest =>
    if last = 0 then (if first = 0 then some [] else none)
    else if c.utf8Size ≤ last then
      if first = 0 then (slice? rest 0 (last - c.utf8Size)).map (c :: ·)
      else if c.utf8Size ≤ first then slice? rest (first - c.utf8Size) (last - c.utf8Size)
      else none
    else none

end MarketFeed.Text
