import MarketFeed.Text.Basic

namespace MarketFeed.Text

/-!
# Blank characters and trimming

Names are read with the blanks around them removed.

* `isBlank` — the characters with the Unicode property `White_Space`.
* `trimChars`, `trim` — a text without the blanks at its two ends.
* `foldCase` — ASCII capitals written small; no other character changes, so a letter of another
  script never turns into an ASCII one.
-/

/-- The code points with the property `White_Space`. -/
def blankRanges : List (Nat × Nat) :=
  [(0x09, 0x0D), (0x20, 0x20), (0x85, 0x85), (0xA0, 0xA0), (0x1680, 0x1680), (0x2000, 0x200A),
   (0x2028, 0x2029), (0x202F, 0x202F), (0x205F, 0x205F), (0x3000, 0x3000)]

/-- A blank character. -/
def isBlank (c : Char) : Bool := inRanges blankRanges c

/-! ### Trimming -/

/-- The characters without the blanks at either end. -/
def trimChars (cs : List Char) : List Char :=
  ((cs.dropWhile isBlank).reverse.dropWhile isBlank).reverse

/-- The text without the blanks at either end. -/
def trim (s : String) : String := String.ofList (trimChars s.toList)

@[simp] theorem toList_trim (s : String) : (trim s).toList = trimChars s.toList :=
  String.toList_ofList

/-! ### ASCII case -/

/-- The text with ASCII capitals written small. -/
def foldCase (s : String) : String := String.ofList (s.toList.map Char.toLower)

@[simp] theorem toList_foldCase (s : String) : (foldCase s).toList = s.toList.map Char.toLower :=
  String.toList_ofList

end MarketFeed.Text
