import MarketFeed.Exchange
import MarketFeed.MessageType

namespace MarketFeed

/-!
# Errors

Why a name, a tag, a plan entry or a subscription is refused.

* `Kind` — the three vocabularies in which names are looked up.
* `Error` — the causes, `Error.message` their wording.
-/

/-- A vocabulary of names. -/
inductive Kind
  | marketType
  | messageType
  | exchange
  deriving DecidableEq, Repr

/-- The vocabulary as it is called in messages. -/
def Kind.noun : Kind → String
  | .marketType => "market type"
  | .messageType => "message type"
  | .exchange => "exchange"

/-- Why a request cannot be met. -/
inductive Error
  /-- The text names nothing in the vocabulary; it is kept as it was given. -/
  | unknownName (kind : Kind) (text : String)
  /-- No term of the vocabulary has the tag. -/
  | unknownTag (kind : Kind) (value : UInt8)
  /-- The exchange is in the catalogue, but no subscription format is known for it. -/
  | noFormat (exchange : Exchange)
  /-- The exchange has no channel for the message type. -/
  | noChannel (exchange : Exchange) (message : MessageType)
  /-- A channel parameter is absent. -/
  | missingParam (name : String)
  /-- A plan asks for something that does not fit together. -/
  | invalidPlan (reason : String)
  deriving DecidableEq, Repr

/-- The wording of an error. -/
def Error.message : Error → String
  | .unknownName kind text => "unknown " ++ kind.noun ++ ": " ++ text
  | .unknownTag kind value => "invalid " ++ kind.noun ++ " discriminant: " ++ toString value.toNat
  | .noFormat e => "no websocket command builder for exchange: " ++ e.code
  | .noChannel e m => e.code ++ " has no websocket channel for " ++ m.code
  | .missingParam name => "missing config key: " ++ name
  | .invalidPlan reason => "config error: " ++ reason

end MarketFeed
