import MarketFeed.Json.Decode

namespace MarketFeed.Json

/-!
# Reading records

A record is an object with named fields, or a list of the same fields in a fixed order.

* `Field` — one field: its name, how it is read, and what its absence from a list means.
* `Schema` — the fields of a record and what is made of them.
* `Schema.read` — reads a record in either form.  In an object, fields come in any order, none of
  them twice, and members with other names are passed over.
-/

/-- One field of a record that is collected in a draft. -/
structure Field (δ : Type) where
  name : String
  /-- The draft already holds the field. -/
  isSet (draft : δ) : Bool
  /-- Reads the field's value into the draft. -/
  read (draft : δ) : Reader δ
  /-- A list may end before the field. -/
  mayEnd : Bool := false

/-- The fields of a record, and the record that a draft amounts to. -/
structure Schema (δ ρ : Type) where
  /-- What the record is called in messages. -/
  title : String
  fields : List (Field δ)
  empty : δ
  /-- The record, or the first field that the draft lacks. -/
  finish (draft : δ) : Except Fault ρ

namespace Schema

variable {δ ρ : Type}

/-- What to do with a member of an object: read a field that is not yet set, and pass over a member
    that is no field. -/
def member (schema : Schema δ ρ) (draft : δ) (name : String) : Except Fault (Reader δ) :=
  match schema.fields.find? fun f => f.name == name with
  | some f => if f.isSet draft then .error (.duplicateField name) else .ok (f.read draft)
  | none => .ok fun cs => do
      let (_, rest) ← skipValue cs
      return (draft, rest)

/-- Reads fields from the items of a list, where `count` items were read before. -/
def readFields (schema : Schema δ ρ) (draft : δ) (count : Nat) : List (Field δ) → Reader δ
  | [], cs => .ok (draft, cs)
  | f :: fs, cs => do
    let (more, rest) ← hasItem (count == 0) cs
    if more then
      let (draft, rest) ← f.read draft rest
      schema.readFields draft (count + 1) fs rest
    else if f.mayEnd then schema.readFields draft count fs rest
    else .error (.invalidLength count schema.title schema.fields.length)

/-- Reads a record. -/
def read (schema : Schema δ ρ) : Reader ρ := fun cs =>
  match skipSpaces cs with
  | [] => .error (.endOfInput .value)
  | c :: rest =>
    if c = '{' then do
      let (draft, rest) ← readMembers schema.member true schema.empty rest
      let record ← schema.finish draft
      return (record, rest)
    else if c = '[' then do
      let (draft, rest) ← schema.readFields schema.empty 0 schema.fields rest
      let record ← schema.finish draft
      let (_, rest) ← readListEnd rest
      return (record, rest)
    else .error (wrongType schema.title (c :: rest))

end Schema

/-- A field that a finished draft must hold. -/
def require {α : Type} (name : String) : Option α → Except Fault α
  | some a => .ok a
  | none => .error (.missingField name)

end MarketFeed.Json
