import MarketFeed.Json.Naming
import MarketFeed.Json.Skip
import MarketFeed.Params
import MarketFeed.Vocabulary

namespace MarketFeed.Json

/-!
# Reading JSON by type

Readers for values of a known type.  A value of another type is a fault that says what was found.

* `readString`, `readBool`, `readNull`, `readOptional` — values without structure.
* `readList`, `readMembers` — every item of a list, and every member of an object.
* `readVariant` — one of several names, as a string or as an object `{name: null}`.
* `readTerm` — a term by its name in JSON; `readExchange` — an exchange by any of its names.
* `readText` — a whole text: one value, and nothing after it but blanks.
-/

/-! ### Values of another type -/

/-- What a text begins with, read as far as a message about it needs. -/
def readFound (cs : List Char) : Except Fault Found :=
  match cs with
  | [] => .error (.endOfInput .value)
  | c :: rest =>
    if c = 'n' then (readWord "ull".toList rest).map fun _ => .null
    else if c = 't' then (readWord "rue".toList rest).map fun _ => .bool true
    else if c = 'f' then (readWord "alse".toList rest).map fun _ => .bool false
    else if c = '-' then (readWhole true rest).map fun p => .number p.1
    else if c.isDigit then (readWhole false cs).map fun p => .number p.1
    else if c = '"' then (readBody true [] rest).map fun p => .string (String.ofList p.1)
    else if c = '[' then .ok .sequence
    else if c = '{' then .ok .map
    else .error .expectedValue

/-- The fault of a text that holds something else than expected. -/
def wrongType (expected : String) (cs : List Char) : Fault :=
  match readFound cs with
  | .ok found => .invalidType found expected
  | .error e => e

/-! ### Values without structure -/

/-- Reads a string. -/
def readString : Reader String := fun cs =>
  match skipSpaces cs with
  | [] => .error (.endOfInput .value)
  | c :: rest =>
    if c = '"' then (readBody true [] rest).map fun p => (String.ofList p.1, p.2)
    else .error (wrongType "a string" (c :: rest))

/-- Reads a truth value. -/
def readBool : Reader Bool := fun cs =>
  match skipSpaces cs with
  | [] => .error (.endOfInput .value)
  | c :: rest =>
    if c = 't' then (readWord "rue".toList rest).map fun p => (true, p.2)
    else if c = 'f' then (readWord "alse".toList rest).map fun p => (false, p.2)
    else .error (wrongType "a boolean" (c :: rest))

/-- Reads `null`. -/
def readNull : Reader Unit := fun cs =>
  match skipSpaces cs with
  | [] => .error (.endOfInput .value)
  | c :: rest =>
    if c = 'n' then readWord "ull".toList rest
    else .error (wrongType "unit" (c :: rest))

/-- Reads `null` or a value. -/
def readOptional {α : Type} (read : Reader α) : Reader (Option α) := fun cs =>
  match skipSpaces cs with
  | 'n' :: rest => (readWord "ull".toList rest).map fun p => (none, p.2)
  | _ => (read cs).map fun p => (some p.1, p.2)

/-! ### Lists and objects -/

/-- Whether another item follows in a list; the text is left at the item, or at the end of the
    list. -/
def hasItem (isFirst : Bool) : Reader Bool := fun cs =>
  match skipSpaces cs with
  | [] => .error (.endOfInput .list)
  | c :: rest =>
    if c = ']' then .ok (false, c :: rest)
    else if isFirst then .ok (true, c :: rest)
    else if c = ',' then
      match skipSpaces rest with
      | [] => .error (.endOfInput .value)
      | d :: rest' => if d = ']' then .error .trailingComma else .ok (true, d :: rest')
    else .error (.expectedCommaOrEnd .list)

/-- Whether another member follows in an object; the text is left after the quote that opens its
    name, or at the end of the object. -/
def hasMember (isFirst : Bool) : Reader Bool := fun cs =>
  match skipSpaces cs with
  | [] => .error (.endOfInput .object)
  | c :: rest =>
    if c = '}' then .ok (false, c :: rest)
    else if isFirst then
      if c = '"' then .ok (true, rest) else .error .keyMustBeString
    else if c = ',' then
      match skipSpaces rest with
      | [] => .error (.endOfInput .value)
      | d :: rest' =>
        if d = '"' then .ok (true, rest')
        else if d = '}' then .error .trailingComma
        else .error .keyMustBeString
    else .error (.expectedCommaOrEnd .object)

/-- Reads the end of a list. -/
def readListEnd : Reader Unit := fun cs =>
  match skipSpaces cs with
  | [] => .error (.endOfInput .list)
  | c :: rest =>
    if c = ']' then .ok ((), rest)
    else if c = ',' then
      .error (if (skipSpaces rest).head? == some ']' then .trailingComma else .trailingCharacters)
    else .error .trailingCharacters

/-- Reads the items of a list after its bracket.  An item that takes nothing off the text ends the
    reading, so that it comes to an end whatever `read` does. -/
def readItems {α : Type} (read : Reader α) (isFirst : Bool) (cs : List Char) :
    Except Fault (List α × List Char) :=
  match hasItem isFirst cs with
  | .error e => .error e
  | .ok (false, rest) => .ok ([], rest.tail)
  | .ok (true, rest) =>
    match read rest with
    | .error e => .error e
    | .ok (a, rest') =>
      if rest'.length < cs.length then
        match readItems read false rest' with
        | .error e => .error e
        | .ok (as, rest'') => .ok (a :: as, rest'')
      else .error .expectedValue
termination_by cs.length

/-- Reads a list. -/
def readList {α : Type} (read : Reader α) : Reader (List α) := fun cs =>
  match skipSpaces cs with
  | [] => .error (.endOfInput .value)
  | c :: rest =>
    if c = '[' then readItems read true rest
    else .error (wrongType "a sequence" (c :: rest))

/-- Reads the members of an object after its bracket, each changing `state`.  What a member does is
    decided when its name is known and its colon is not yet read. -/
def readMembers {σ : Type} (member : σ → String → Except Fault (Reader σ)) (isFirst : Bool)
    (state : σ) (cs : List Char) : Except Fault (σ × List Char) :=
  match hasMember isFirst cs with
  | .error e => .error e
  | .ok (false, rest) => .ok (state, rest.tail)
  | .ok (true, rest) =>
    match readBody true [] rest with
    | .error e => .error e
    | .ok (name, rest) =>
      match member state (String.ofList name) with
      | .error e => .error e
      | .ok read =>
        match readColon rest with
        | .error e => .error e
        | .ok (_, rest) =>
          match read rest with
          | .error e => .error e
          | .ok (state', rest') =>
            if rest'.length < cs.length then readMembers member false state' rest'
            else .error .expectedValue
termination_by cs.length

/-- Reads an object of strings; of several members with one name the last one counts. -/
def readParams : Reader Params := fun cs =>
  match skipSpaces cs with
  | [] => .error (.endOfInput .value)
  | c :: rest =>
    if c = '{' then
      readMembers (fun params name => .ok fun cs => do
        let (value, rest) ← readString cs
        return (params.insert name value, rest)) true .empty rest
    else .error (wrongType "a map" (c :: rest))

/-! ### Codes -/

/-- The value of a code. -/
def chooseVariant {α : Type} (variants : List (String × α)) (code : String) : Except Fault α :=
  match variants.lookup code with
  | some a => .ok a
  | none => .error (.unknownVariant code (variants.map Prod.fst))

/-- Reads the end of an object that holds one code. -/
def readVariantEnd : Reader Unit := fun cs =>
  match skipSpaces cs with
  | [] => .error (.endOfInput .object)
  | c :: rest => if c = '}' then .ok ((), rest) else .error .expectedValue

/-- Reads one of some codes, as a string or as the only name in an object, whose value is `null`. -/
def readVariant {α : Type} (variants : List (String × α)) : Reader α := fun cs =>
  match skipSpaces cs with
  | [] => .error (.endOfInput .value)
  | c :: rest =>
    if c = '"' then do
      let (code, rest) ← readBody true [] rest
      let a ← chooseVariant variants (String.ofList code)
      return (a, rest)
    else if c = '{' then
      match skipSpaces rest with
      | [] => .error (.endOfInput .object)
      | d :: rest =>
        if d = '"' then do
          let (code, rest) ← readBody true [] rest
          let a ← chooseVariant variants (String.ofList code)
          let (_, rest) ← readColon rest
          let (_, rest) ← readNull rest
          let (_, rest) ← readVariantEnd rest
          return (a, rest)
        else .error .keyMustBeString
    else .error .expectedValue

/-- Reads a term by its exact name in JSON. -/
def readTerm (α : Type) [Enumeration α] : Reader α := readVariant (Enumeration.variants α)

/-- Reads an exchange by any of the names that name it. -/
def readExchange : Reader Exchange := fun cs => do
  let (name, rest) ← readString cs
  match Vocabulary.parse (α := Exchange) name with
  | .ok e => return (e, rest)
  | .error e => .error (.refused e)

/-! ### Whole texts -/

/-- Reads a text that holds one value and nothing else. -/
def readText {α : Type} (read : Reader α) (text : String) : Except Fault α :=
  match read text.toList with
  | .error e => .error e
  | .ok (a, rest) => if (skipSpaces rest).isEmpty then .ok a else .error .trailingCharacters

end MarketFeed.Json
