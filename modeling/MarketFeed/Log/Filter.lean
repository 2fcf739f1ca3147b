import MarketFeed.Log.Directive

namespace MarketFeed.Log

/-!
# Log filters

A filter is written as directives with commas between them.

* `Filter.ofText?` — a filter all of whose directives can be read; `Filter.ofTextLossy` leaves out
  those that cannot, and complains of each.
* `Filter.Choice`, `Filter.choose` — the filter a run uses, with the complaints.
* `Filter.Abort` — what is left of a program that ends while a filter is read.
* `Filter.enabled` — whether an event passes: the directive with the longest target that the event's
  target begins with decides, and of several for one target the last.
-/

/-- A log filter. -/
structure Filter where
  directives : List Directive
  deriving DecidableEq, Repr

namespace Filter

/-- The filter that lets errors pass. -/
def errors : Filter where
  directives := [{ verbosity := .upTo .error }]

/-! ### Reading -/

/-- The written directives of a filter. -/
def pieces (text : String) : List String :=
  (Text.splitOn ',' text).filter fun piece => piece != ""

/-- What is left of a program that ends while it reads a filter: the complaints made before. -/
structure Abort where
  complaints : List String := []
  deriving DecidableEq, Repr

/-- The filter of a text all of whose directives can be read.  Without directives nothing passes. -/
def ofText? (text : String) : Except Abort (Option Filter) :=
  match (pieces text).mapM Directive.ofText with
  | .ok directives => .ok (some { directives })
  | .error (.refused _) => .ok none
  | .error .aborted => .error {}

/-- The complaint about a piece that is no directive. -/
def complaint (piece : String) (fault : Directive.Fault) : String :=
  "ignoring `" ++ piece ++ "`: " ++ fault.message

/-- A filter, and what was complained of while it was read. -/
structure Choice where
  filter : Filter
  complaints : List String := []
  deriving DecidableEq, Repr

/-- Reads one more piece: a directive, or something to complain of. -/
def Choice.take (s : Choice) (piece : String) : Except Abort Choice :=
  match Directive.ofText piece with
  | .ok d => .ok { s with filter := { directives := s.filter.directives ++ [d] } }
  | .error (.refused fault) => .ok { s with complaints := s.complaints ++ [complaint piece fault] }
  | .error .aborted => .error { complaints := s.complaints }

/-- The filter of the directives that can be read, and a complaint about each other piece.  Without
    directives errors pass. -/
def ofTextLossy (text : String) : Except Abort Choice := do
  let s ← (pieces text).foldlM Choice.take { filter := { directives := [] } }
  return if s.filter.directives.isEmpty then { s with filter := errors } else s

/-- The filter of a text that need not be there. -/
def ofOption? (text? : Option String) : Except Abort (Option Filter) :=
  match text? with
  | some text => ofText? text
  | none => .ok none

/-- The filter that a run uses: the preferred one, if it is given and can be read, and else the
    other as far as it can be read. -/
def choose (preferred? : Option String) (otherwise : String) : Except Abort Choice := do
  match ← ofOption? preferred? with
  | some filter => return { filter }
  | none => ofTextLossy otherwise

/-! ### Letting events through -/

/-- The directive that decides about events of a target. -/
def deciding? (f : Filter) (target : String) : Option Directive :=
  (f.directives.filter (·.appliesTo target)).foldl (fun best? d =>
    match best? with
    | none => some d
    | some best => if d.atLeastAsClose best then some d else some best) none

/-- The event passes the filter. -/
def enabled (f : Filter) (e : Event) : Bool :=
  match f.deciding? e.target with
  | some d => e.level.rank ≤ d.verbosity.rank
  | none => false

end Filter

end MarketFeed.Log
