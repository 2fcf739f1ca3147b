import MarketFeed.Error

namespace MarketFeed

/-!
# Channel parameters

* `Params` — parameters by name, at most one value each, or none given at all.
* `Params.get?`, `Params.insert` — a later value takes the place of an earlier one.
* `Params.interval` — the one parameter that channels ask for: the candlestick interval.
-/

/-- Channel parameters by name. -/
structure Params where
  /-- The parameters that were given; `none` if there is not even an empty list of them. -/
  entries? : Option (List (String × String)) := none
  deriving DecidableEq, Repr, Inhabited

namespace Params

/-- An empty list of parameters. -/
def empty : Params where
  entries? := some []

/-- The value of a parameter. -/
def get? (p : Params) (name : String) : Option String := p.entries?.bind fun es => es.lookup name

/-- The parameters with `name` set to `value`. -/
def insert (p : Params) (name value : String) : Params where
  entries? := some ((name, value) :: (p.entries?.getD []).filter fun e => e.1 != name)

/-- Parameters set one after another. -/
def ofList (entries : List (String × String)) : Params :=
  entries.foldl (fun p e => p.insert e.1 e.2) empty

/-- A parameter that was just set has its value. -/
theorem get?_insert_self (p : Params) (name value : String) :
    (p.insert name value).get? name = some value := by
  simp [get?, insert]

/-- The candlestick interval, in the exchange's own notation. -/
def interval (p : Params) : Except Error String :=
  match p.get? "interval" with
  | some i => .ok i
  | none => .error (.missingParam "interval")

end Params

end MarketFeed
