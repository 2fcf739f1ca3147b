namespace MarketFeed

/-!
# Market types

What kind of market a symbol trades on.

* `MarketType` — the twelve kinds, `MarketType.all` in the order of their tags.
* `MarketType.code`, `MarketType.tag` — the two stable representations: a text and a byte.
* `MarketType.isContract`, `MarketType.collateral` — what the kind alone says about a position.
-/

/-- A kind of market.  Spot trades are delivered at once, futures at a set date, and a swap is a
    future without a date.  A linear contract is margined in its quote asset, an inverse one in its
    base asset, a quanto one in a third. -/
inductive MarketType
  | unknown
  | spot
  | linearFuture
  | inverseFuture
  | linearSwap
  | inverseSwap
  | americanOption
  | europeanOption
  | quantoFuture
  | quantoSwap
  | move
  | bvol
  deriving DecidableEq, Repr, Inhabited

/-- The asset that backs a position: the quote asset (linear) or the base asset (inverse). -/
inductive Collateral
  | linear
  | inverse
  deriving DecidableEq, Repr

/-! ### Representations -/

/-- The canonical code. -/
def MarketType.code : MarketType → String
  | .unknown => "unknown"
  | .spot => "spot"
  | .linearFuture => "linear_future"
  | .inverseFuture => "inverse_future"
  | .linearSwap => "linear_swap"
  | .inverseSwap => "inverse_swap"
  | .americanOption => "american_option"
  | .europeanOption => "european_option"
  | .quantoFuture => "quanto_future"
  | .quantoSwap => "quanto_swap"
  | .move => "move"
  | .bvol => "bvol"

/-- The byte that stands for the kind in stored data. -/
def MarketType.tag : MarketType → UInt8
  | .unknown => 0
  | .spot => 1
  | .linearFuture => 2
  | .inverseFuture => 3
  | .linearSwap => 4
  | .inverseSwap => 5
  | .americanOption => 6
  | .europeanOption => 7
  | .quantoFuture => 8
  | .quantoSwap => 9
  | .move => 10
  | .bvol => 11

/-- Every kind, in the order of the tags. -/
def MarketType.all : List MarketType :=
  [.unknown, .spot, .linearFuture, .inverseFuture, .linearSwap, .inverseSwap, .americanOption,
   .europeanOption, .quantoFuture, .quantoSwap, .move, .bvol]

theorem MarketType.mem_all (m : MarketType) : m ∈ MarketType.all := by
  cases m <;> decide

/-- The canonical code. -/
def Collateral.code : Collateral → String
  | .linear => "linear"
  | .inverse => "inverse"

/-- Both collaterals. -/
def Collateral.all : List Collateral := [.linear, .inverse]

theorem Collateral.mem_all (c : Collateral) : c ∈ Collateral.all := by
  cases c <;> decide

/-! ### Margin -/

/-- Futures, swaps, options and index contracts, all of which are margined. -/
def MarketType.isContract : MarketType → Bool
  | .unknown | .spot => false
  | _ => true

/-- The collateral that follows from the kind alone; `none` where the exchange decides. -/
def MarketType.collateral : MarketType → Option Collateral
  | .spot | .linearFuture | .linearSwap => some .linear
  | .inverseFuture | .inverseSwap => some .inverse
  | _ => none

end MarketFeed
