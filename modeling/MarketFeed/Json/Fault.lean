import MarketFeed.Error
import MarketFeed.Json.Number
import MarketFeed.Text.Quoted

namespace MarketFeed.Json

/-!
# Faults in a JSON text

* `Fault` — what a reader stumbles over; the first fault from the left ends the reading.
* `Fault.category` — whether the text is no JSON, ends too early, or is JSON of the wrong shape.
* `Position`, `Position.restate` — a position in a text, and what becomes of a text that ends in the
  wording of one.
* `Fault.message` — the wording.
-/

/-- A bracket that is open. -/
inductive Enclosure
  | list
  | object
  deriving DecidableEq, Repr

/-- What the reader is in the middle of. -/
inductive Place
  | list
  | object
  | string
  | value
  deriving DecidableEq, Repr

/-- The enclosure as a place where a text may end. -/
def Enclosure.place : Enclosure → Place
  | .list => .list
  | .object => .object

/-- What stands where something else is expected. -/
inductive Found
  | null
  | bool (value : Bool)
  | number (value : Number)
  | string (value : String)
  | sequence
  | map
  deriving DecidableEq, Repr

/-- A reason to stop reading. -/
inductive Fault
  | endOfInput (place : Place)
  | expectedColon
  | expectedCommaOrEnd (inside : Enclosure)
  | expectedWord
  | expectedValue
  | invalidEscape
  | invalidNumber
  | numberOutOfRange
  | controlCharacter
  | keyMustBeString
  | loneSurrogate
  | unfinishedPair
  | trailingComma
  | trailingCharacters
  /-- A value of another type than the reader expects. -/
  | invalidType (found : Found) (expected : String)
  /-- A text that is none of the codes that may stand here. -/
  | unknownVariant (text : String) (codes : List String)
  /-- A record written as a list with too few items. -/
  | invalidLength (count : Nat) (title : String) (total : Nat)
  | missingField (name : String)
  | duplicateField (name : String)
  /-- A text that names nothing. -/
  | refused (error : Error)
  deriving DecidableEq, Repr

/-! ### Categories -/

/-- What is wrong with the text as a whole. -/
inductive Category
  | malformed
  | endOfInput
  | data
  deriving DecidableEq, Repr

/-- The category of a fault. -/
def Fault.category : Fault → Category
  | .endOfInput _ => .endOfInput
  | .invalidType .. | .unknownVariant .. | .invalidLength .. | .missingField _ | .duplicateField _
  | .refused _ => .data
  | _ => .malformed

/-! ### Positions -/

/-- Where a reader stands in a text. -/
structure Position where
  line : Nat
  column : Nat
  deriving DecidableEq, Repr

namespace Position

/-- The position in words, as they follow the wording of a fault. -/
def text (p : Position) : String :=
  " at line " ++ toString p.line ++ " column " ++ toString p.column

/-- The number that some digits stand for, if it fits 64 bits. -/
def wordOf? (ds : List Char) : Option Nat :=
  if ds.isEmpty ∨ UInt64.size ≤ Text.decimalValue ds then none else some (Text.decimalValue ds)

/-- What is left of a text when some of its last characters are taken off; both are written
    backwards. -/
def dropWord? (word cs : List Char) : Option (List Char) :=
  if word.isPrefixOf cs then some (cs.drop word.length) else none

/-- A text that ends in a position, cut before it; the text is written backwards. -/
def cutBackwards? (cs : List Char) : Option (List Char × Position) := do
  let column := cs.takeWhile Char.isDigit
  let cs ← dropWord? " column ".toList.reverse (cs.dropWhile Char.isDigit)
  let line := cs.takeWhile Char.isDigit
  let cs ← dropWord? " at line ".toList.reverse (cs.dropWhile Char.isDigit)
  return (cs, { line := ← wordOf? line.reverse, column := ← wordOf? column.reverse })

/-- A text that ends in a position, cut before it. -/
def cut? (text : String) : Option (String × Position) :=
  (cutBackwards? text.toList.reverse).map fun (cs, p) => (String.ofList cs.reverse, p)

/-- A text as the wording of a fault.  If it ends in a position, this is taken for the position of
    the fault and worded anew; no line has the number 0, so such a position is dropped. -/
def restate (text : String) : String :=
  match cut? text with
  | some (front, p) => if p.line = 0 then front else front ++ p.text
  | none => text

end Position

/-! ### Wording -/

/-- A word between grave accents. -/
def backquoted (text : String) : String := "`" ++ text ++ "`"

/-- What was found, in words. -/
def Found.text : Found → String
  | .null => "null"
  | .bool b => "boolean " ++ backquoted (if b then "true" else "false")
  | .number (.integer n) => "integer " ++ backquoted (Number.integer n).text
  | .number n => "floating point " ++ backquoted n.text
  | .string s => "string " ++ Text.quoteForReader s
  | .sequence => "sequence"
  | .map => "map"

/-- The codes that may stand somewhere, in words. -/
def expectation : List String → String
  | [a] => backquoted a
  | [a, b] => backquoted a ++ " or " ++ backquoted b
  | codes => "one of " ++ String.intercalate ", " (codes.map backquoted)

/-- The wording of a fault. -/
def Fault.message : Fault → String
  | .endOfInput .list => "EOF while parsing a list"
  | .endOfInput .object => "EOF while parsing an object"
  | .endOfInput .string => "EOF while parsing a string"
  | .endOfInput .value => "EOF while parsing a value"
  | .expectedColon => "expected `:`"
  | .expectedCommaOrEnd .list => "expected `,` or `]`"
  | .expectedCommaOrEnd .object => "expected `,` or `\x7d`"
  | .expectedWord => "expected ident"
  | .expectedValue => "expected value"
  | .invalidEscape => "invalid escape"
  | .invalidNumber => "invalid number"
  | .numberOutOfRange => "number out of range"
  | .controlCharacter => "control character (\\u0000-\\u001F) found while parsing a string"
  | .keyMustBeString => "key must be a string"
  | .loneSurrogate => "lone leading surrogate in hex escape"
  | .unfinishedPair => "unexpected end of hex escape"
  | .trailingComma => "trailing comma"
  | .trailingCharacters => "trailing characters"
  | .invalidType found expected => "invalid type: " ++ found.text ++ ", expected " ++ expected
  | .unknownVariant text codes =>
      "unknown variant " ++ backquoted text ++ ", expected " ++ expectation codes
  | .invalidLength count title total =>
      "invalid length " ++ toString count ++ ", expected " ++ title ++ " with " ++ toString total
        ++ " elements"
  | .missingField name => "missing field " ++ backquoted name
  | .duplicateField name => "duplicate field " ++ backquoted name
  | .refused error => Position.restate error.message

end MarketFeed.Json
