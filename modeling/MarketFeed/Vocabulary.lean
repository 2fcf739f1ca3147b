import MarketFeed.Error
import MarketFeed.Log.Event
import MarketFeed.Text.Blank

namespace MarketFeed

/-!
# Vocabularies

Market types, message types and exchanges are closed lists of terms with one canonical code each.

* `Vocabulary` — such a list.
* `parse` — reads a term written by hand: blanks around it and ASCII case do not matter.
* `ofCode?` — reads a code exactly as it is stored.
* `Tagged` — a vocabulary whose terms also have a byte, with `ofTag` and the archive form
  (`archive`, `unarchive?`), whose last byte is the tag.
* `parseOrFallback` — for decoders that must keep going: an unrecognized code becomes the fallback
  term, and an event says so.
-/

/-- A closed list of terms, each with a canonical code. -/
class Vocabulary (α : Type) where
  kind : Kind
  all : List α
  code : α → String
  /-- Other names, written as `parse` compares them. -/
  aliases : List (String × α)

/-- A vocabulary whose terms also have a byte. -/
class Tagged (α : Type) extends Vocabulary α where
  tag : α → UInt8
  /-- The term that stands for everything else. -/
  fallback : α

instance : Tagged MarketType where
  kind := .marketType
  all := MarketType.all
  code := MarketType.code
  aliases := []
  tag := MarketType.tag
  fallback := .unknown

instance : Tagged MessageType where
  kind := .messageType
  all := MessageType.all
  code := MessageType.code
  aliases := []
  tag := MessageType.tag
  fallback := .other

instance : Vocabulary Exchange where
  kind := .exchange
  all := Exchange.all
  code := Exchange.code
  aliases := [("mxc", .mexc)]

namespace Vocabulary

variable {α : Type} [Vocabulary α]

/-! ### Reading names -/

/-- A name as names are compared: without blanks at its ends, ASCII capitals written small. -/
def normalize (text : String) : String := Text.foldCase (Text.trim text)

/-- The term with exactly this code. -/
def ofCode? (text : String) : Option α := (all (α := α)).find? fun a => code a == text

/-- The term a text names. -/
def parse? (text : String) : Option α :=
  (aliases.lookup (normalize text)).or (ofCode? (normalize text))

/-- The term a text names, or an error that holds the text as it was given. -/
def parse (text : String) : Except Error α :=
  match parse? text with
  | some a => .ok a
  | none => .error (.unknownName (kind α) text)

/-- A text that names a term is read as it. -/
theorem parse_eq_ok {text : String} {a : α} (h : parse? text = some a) : parse text = .ok a := by
  rw [parse, h]

/-- A text that names none is refused, and kept as it was given. -/
theorem parse_eq_error {text : String} (h : parse? (α := α) text = none) :
    parse (α := α) text = .error (.unknownName (kind α) text) := by
  rw [parse, h]

end Vocabulary

namespace Tagged

variable {α : Type} [Tagged α]

open Vocabulary Log

/-! ### Tags -/

/-- The term at a tag's place in the list of all terms. -/
def ofTag (value : UInt8) : Except Error α :=
  match (all (α := α))[value.toNat]? with
  | some a => .ok a
  | none => .error (.unknownTag (kind α) value)

/-- The stored form of a term. -/
def archive (a : α) : List UInt8 := [tag a]

/-- The term in stored bytes: the one whose tag is the last byte. -/
def unarchive? (bytes : List UInt8) : Option α :=
  bytes.getLast?.bind fun b => (all (α := α)).find? fun a => tag a == b

/-! ### Keeping going on unknown codes -/

/-- Reports that a code was not recognized. -/
def unrecognized (α : Type) [Tagged α] (text : String) : Event where
  level := .debug
  target := "cmt_core::types::enums"
  message := "unrecognized " ++ (kind α).noun ++ " code '" ++ text ++ "', using "
    ++ code (fallback (α := α))

/-- The term a text names, with the fallback and one event when it names none. -/
def parseOrFallback (text : String) : α × List Event :=
  match parse? text with
  | some a => (a, [])
  | none => (fallback, [unrecognized α text])

end Tagged

end MarketFeed
