import MarketFeed.Proofs.Fallible
import MarketFeed.Venue.Basic

namespace MarketFeed

/-!
# Tables of streams

* `Carries` — a table of streams offers the message types of a list, and waits for the interval
  exactly for candlesticks.
* `Stream.fill?`, `Venue.resolve_eq_ok_iff` — what comes of a stream when its interval is there, or
  not needed.
* `Venue.resolve_map` — what is done to a stream is done to what comes of it.
* `Stream.resolve_congr`, `Carries.resolve_congr` — the interval is the one parameter that is read,
  and for a candlestick alone.
-/

variable {α : Type}

/-- The stream waits for the candlestick interval. -/
def Stream.isTimed : Stream α → Bool
  | .ready _ => false
  | .timed _ => true

/-- The table has a stream for just the listed message types, and just the candlestick stream waits
    for the interval. -/
structure Carries (messages : List MessageType) (stream? : MessageType → Option (Stream α)) :
    Prop where
  isSome_eq : ∀ m, (stream? m).isSome = decide (m ∈ messages)
  isTimed_eq : ∀ m s, stream? m = some s → s.isTimed = decide (m = .candlestick)

/-- There is a stream for a message type just when it is carried. -/
theorem Carries.isSome_iff {messages : List MessageType} {stream? : MessageType → Option (Stream α)}
    (h : Carries messages stream?) (m : MessageType) : (stream? m).isSome ↔ m ∈ messages := by
  rw [h.isSome_eq, decide_eq_true_iff]

/-- A stream needs an interval just when it is for candlesticks. -/
theorem Carries.isTimed_iff {messages : List MessageType}
    {stream? : MessageType → Option (Stream α)} (h : Carries messages stream?) {m : MessageType}
    {s : Stream α} (hs : stream? m = some s) : s.isTimed ↔ m = .candlestick := by
  rw [h.isTimed_eq m s hs, decide_eq_true_iff]

/-! ### Filling in the interval -/

/-- The stream with the interval filled in, if it is there when it is needed. -/
def Stream.fill? (interval? : Option String) : Stream α → Option α
  | .ready a => some a
  | .timed f => interval?.map f

/-- A stream resolves if it is ready, or if an interval is given. -/
theorem Stream.resolve_eq_ok_iff {params : Params} {s : Stream α} {a : α} :
    s.resolve params = .ok a ↔ s.fill? (params.get? "interval") = some a := by
  cases s with
  | ready b => simp [Stream.resolve, Stream.fill?]
  | timed f => cases hi : params.get? "interval" <;> simp [Stream.resolve, Stream.fill?,
      Params.interval, hi]

/-- A message type is served just when there is a stream for it and the interval is there if it is
    needed. -/
theorem Venue.resolve_eq_ok_iff {v : Venue} {params : Params} {m : MessageType}
    {stream? : Option (Stream α)} {a : α} :
    v.resolve params m stream? = .ok a ↔
      stream?.bind (Stream.fill? (params.get? "interval")) = some a := by
  cases stream? with
  | none => simp [Venue.resolve]
  | some s => exact Stream.resolve_eq_ok_iff

/-- What is done to a stream is done to what comes of it. -/
theorem Venue.resolve_map {β : Type} (v : Venue) (params : Params) (m : MessageType) (f : α → β)
    (stream? : Option (Stream α)) :
    v.resolve params m (stream?.map (Stream.map f)) = f <$> v.resolve params m stream? := by
  cases stream? with
  | none => rfl
  | some s => exact Stream.resolve_map f params s

/-! ### Other parameters -/

/-- Only the interval counts. -/
theorem Stream.resolve_congr {params params' : Params}
    (h : params.get? "interval" = params'.get? "interval") (s : Stream α) :
    s.resolve params = s.resolve params' := by
  cases s with
  | ready a => rfl
  | timed f => rw [Stream.resolve, Stream.resolve, Params.interval, Params.interval, h]

/-- The interval is read for a candlestick alone, and only if there is a channel for it. -/
theorem Carries.resolve_congr {messages : List MessageType}
    {stream? : MessageType → Option (Stream α)} (hc : Carries messages stream?)
    {params params' : Params} {m : MessageType}
    (h : m = .candlestick → m ∈ messages → params.get? "interval" = params'.get? "interval")
    (v : Venue) : v.resolve params m (stream? m) = v.resolve params' m (stream? m) := by
  cases hs : stream? m with
  | none => rfl
  | some s =>
    -- a stream that is ready takes no parameters
    cases s with
    | ready a => rfl
    | timed f =>
      have hm : m = .candlestick := (hc.isTimed_iff hs).mp rfl
      have hmem : m ∈ messages := (hc.isSome_iff m).mp (by rw [hs, Option.isSome_some])
      rw [Venue.resolve, Venue.resolve, Stream.resolve_congr (h hm hmem)]

end MarketFeed
