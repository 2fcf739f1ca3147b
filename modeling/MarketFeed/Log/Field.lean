import MarketFeed.Log.Pattern
import MarketFeed.Text.Split

namespace MarketFeed.Log

/-!
# Fields of a directive

A directive may name fields that an event must have, each perhaps with a value after `=`.

* `isDecimal` — the texts that stand for a number.
* `Field.ofText` — a field; a value that is neither a truth value nor a number is a pattern.
-/

/-! ### Numbers -/

/-- The text without a sign in front. -/
def withoutSign : List Char → List Char
  | '+' :: cs => cs
  | '-' :: cs => cs
  | cs => cs

/-- Some digits, and nothing else. -/
def areDigits (cs : List Char) : Bool := !cs.isEmpty && cs.all Char.isDigit

/-- What may follow the digits of a number: nothing, or `e` and a whole number. -/
def isExponent : List Char → Bool
  | [] => true
  | c :: cs => (c == 'e' || c == 'E') && areDigits (withoutSign cs)

/-- Digits with perhaps a point among, before or after them, and an exponent. -/
def isUnsignedDecimal (cs : List Char) : Bool :=
  let whole := cs.takeWhile Char.isDigit
  match cs.drop whole.length with
  | '.' :: rest =>
    let part := rest.takeWhile Char.isDigit
    !(whole.isEmpty && part.isEmpty) && isExponent (rest.drop part.length)
  | rest => !whole.isEmpty && isExponent rest

/-- The names of the numbers that have no digits; their case does not matter. -/
def namedNumbers : List String := ["inf", "infinity", "nan"]

/-- The text stands for a number. -/
def isDecimal (cs : List Char) : Bool :=
  let cs := withoutSign cs
  isUnsignedDecimal cs || namedNumbers.any fun name => name.toList == cs.map Char.toLower

/-! ### Fields -/

/-- A field that an event must have. -/
structure Field where
  name : List Char
  /-- What its value must be. -/
  value? : Option (List Char) := none
  deriving DecidableEq, Repr

/-- The value is compared as it is, and not as a pattern. -/
def isPlainValue (cs : List Char) : Bool :=
  cs == "true".toList || cs == "false".toList || isDecimal cs

/-- What is wrong with a value. -/
def valueFault? (cs : List Char) : Option Pattern.Fault :=
  if isPlainValue cs then none else Pattern.fault? cs

/-- Reads a field.  Its value ends at a second `=`, and what follows is of no account. -/
def Field.ofText (cs : List Char) : Except Pattern.Fault Field :=
  match Text.splitChars '=' cs with
  | name :: value :: _ =>
    match valueFault? value with
    | some fault => .error fault
    | none => .ok { name, value? := some value }
  | name :: [] => .ok { name }
  | [] => .ok { name := [] }

/-- The message of an event, which is the only field that events have. -/
def Field.message : Field where
  name := "message".toList

end MarketFeed.Log
