import MarketFeed.Params

namespace MarketFeed

/-!
# Streams and pairs

What the formats of all venues are made with.

* `Stream` — what carries one message type for one symbol: known at once, or only when the
  candlestick interval is known.
* `Stream.resolve` — the stream with the interval filled in.
* `subscribeVerb` — the word most exchanges use for the direction.
* `forEachPair` — visits every pair of two lists, the first list in the outer loop, and collects
  what the visits give.  The visits run in any monad, so they may fail, which ends the walk, or
  carry a state from one to the next.
-/

/-! ### Streams -/

/-- Something that may still wait for the candlestick interval. -/
inductive Stream (α : Type)
  | ready (value : α)
  | timed (value : String → α)

namespace Stream

variable {α β : Type}

/-- Applies a function to what the stream will be. -/
def map (f : α → β) : Stream α → Stream β
  | .ready a => .ready (f a)
  | .timed g => .timed (f ∘ g)

/-- The stream with the interval filled in; it fails when the interval is needed and absent. -/
def resolve (params : Params) : Stream α → Except Error α
  | .ready a => .ok a
  | .timed g =>
    match params.interval with
    | .ok i => .ok (g i)
    | .error e => .error e

/-- What is made of a stream is made of what it resolves to. -/
theorem resolve_map (f : α → β) (params : Params) (s : Stream α) :
    (s.map f).resolve params = (s.resolve params).map f := by
  cases s with
  | ready a => rfl
  | timed g => cases h : params.interval <;> simp [map, resolve, h, Except.map]

end Stream

/-- The word for starting or ending a subscription. -/
def subscribeVerb (subscribe : Bool) : String := if subscribe then "subscribe" else "unsubscribe"

/-! ### Pairs -/

section

variable {m : Type → Type u} {α β γ : Type}

/-- Visits `(x, y)` for every `x` in `xs` and, within that, every `y` in `ys`. -/
def forEachPair [Monad m] (xs : List α) (ys : List β) (visit : α → β → m γ) : m (List γ) := do
  let rows ← xs.mapM fun x => ys.mapM fun y => visit x y
  return rows.flatten

variable [Monad m] [LawfulMonad m]

@[simp] theorem forEachPair_nil (ys : List β) (visit : α → β → m γ) :
    forEachPair [] ys visit = pure [] := by
  simp [forEachPair]

@[simp] theorem forEachPair_cons (x : α) (xs : List α) (ys : List β) (visit : α → β → m γ) :
    forEachPair (x :: xs) ys visit = do
      let row ← ys.mapM (visit x)
      let rest ← forEachPair xs ys visit
      return row ++ rest := by
  simp [forEachPair]

end

end MarketFeed
