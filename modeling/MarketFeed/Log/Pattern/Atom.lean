import MarketFeed.Log.Pattern.Mode
import MarketFeed.Text.Basic

namespace MarketFeed.Log.Pattern

/-!
# The smallest parts of a pattern

* `Atom` — what stands for itself, for a class, or for a place in the text.
* `Atom.allowed`, `Atom.allowedInBrackets` — where and in which mode it can be matched.
* `readEscape?` — the atom after a backslash.

Matching knows no tables of scripts.  By character it can therefore neither fold the case of a
letter nor tell digits, blanks and word characters; by byte it knows the ASCII ones, and must not
match a byte beyond them, which is only a part of a character.
-/

/-- A smallest part of a pattern. -/
inductive Atom
  /-- A character that stands for itself; `byByte` if two digits of a byte are written for it. -/
  | literal (c : Char) (byByte : Bool)
  /-- Any character. -/
  | any
  /-- The digits, the blanks or the word characters, or all but them. -/
  | shorthand (negated : Bool)
  /-- The start or the end of a line or of the text. -/
  | anchor
  /-- The edge of a word, or any place but one. -/
  | wordEdge
  deriving DecidableEq, Repr

/-- The character is one byte long. -/
def isAscii (c : Char) : Bool := c.toNat < 0x80

/-- The atom can stand by itself. -/
def Atom.allowed (m : Mode) : Atom → Bool
  | .literal c byByte => if m.byCharacter then !m.ignoresCase else !byByte || isAscii c
  | .any => m.byCharacter
  | .shorthand negated => !m.byCharacter && !negated
  | .anchor => true
  | .wordEdge => true

/-- The atom can stand in brackets, where there are only characters and classes of them. -/
def Atom.allowedInBrackets (m : Mode) : Atom → Bool
  | .literal c _ => if m.byCharacter then !m.ignoresCase else isAscii c
  | .shorthand negated => !m.byCharacter && !negated
  | .any => false
  | .anchor => false
  | .wordEdge => false

/-! ### Escapes -/

/-- Reads so many hexadecimal digits, and appends them to a number. -/
def readDigits? (m : Mode) : Nat → Nat → List Char → Option (Nat × List Char)
  | 0, n, cs => some (n, cs)
  | _ + 1, _, [] => none
  | k + 1, n, c :: cs => do
    let d ← Text.hexValue? c
    readDigits? m k (16 * n + d) (m.skip cs)

/-- Reads the character that so many digits stand for. -/
def readCode? (m : Mode) (digits : Nat) (byByte : Bool) (cs : List Char) :
    Option (Atom × List Char) := do
  let (n, rest) ← readDigits? m digits 0 (m.skip cs)
  if n.isValidChar then some (.literal (Char.ofNat n) byByte, rest) else none

/-- The control character that a letter after a backslash stands for. -/
def controlOf? (c : Char) : Option Char :=
  if c = 'a' then some '\x07'
  else if c = 't' then some '\t'
  else if c = 'n' then some '\n'
  else if c = 'v' then some '\x0b'
  else if c = 'f' then some '\x0c'
  else if c = 'r' then some '\r'
  else none

/-- Reads what follows a backslash.  An ASCII character that is no letter and no digit stands for
    itself. -/
def readEscape? (m : Mode) : List Char → Option (Atom × List Char)
  | [] => none
  | c :: cs =>
    if c = 'x' then readCode? m 2 true cs
    else if c = 'u' then readCode? m 4 false cs
    else if c = 'U' then readCode? m 8 false cs
    else if c = 'd' ∨ c = 's' ∨ c = 'w' then some (.shorthand false, cs)
    else if c = 'D' ∨ c = 'S' ∨ c = 'W' then some (.shorthand true, cs)
    else if c = 'A' ∨ c = 'z' then some (.anchor, cs)
    else if c = 'b' ∨ c = 'B' ∨ c = '<' ∨ c = '>' then some (.wordEdge, cs)
    else if isAscii c ∧ !c.isAlphanum then some (.literal c false, cs)
    else (controlOf? c).map fun d => (.literal d false, cs)

end MarketFeed.Log.Pattern
