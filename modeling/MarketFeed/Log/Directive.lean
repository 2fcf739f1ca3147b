import MarketFeed.Log.Field
import MarketFeed.Log.Verbosity
import MarketFeed.Text.Alphanumeric
import MarketFeed.Text.Blank

namespace MarketFeed.Log

/-!
# Directives

A directive is a level, a target, or `target=level`, and may name a span and fields in brackets:
`target[span{field=value}]=level`.

* `Directive`, `Directive.ofText` — one directive and its reader, a step for each character.
* `Directive.Fault`, `Directive.Stop` — why a text is no directive, and why the reader stops: it may
  find a fault, or take the text apart inside a character, which ends the program.
* `Directive.appliesTo`, `Directive.atLeastAsClose` — the events it is about, and how closely it is
  aimed at them.
-/

/-- One directive of a filter. -/
structure Directive where
  /-- What the target of an event must begin with. -/
  target? : Option (List Char) := none
  /-- The span an event must happen in. -/
  span? : Option (List Char) := none
  /-- The fields an event must have. -/
  fields : List Field := []
  verbosity : Verbosity := .upTo .trace
  deriving DecidableEq, Repr

namespace Directive

/-! ### Faults -/

/-- Why a text is no directive. -/
inductive Fault
  /-- It has not the form of one. -/
  | malformed
  /-- What stands after its `=` is no level. -/
  | level
  /-- The value of a field cannot be used. -/
  | field (fault : Pattern.Fault)
  deriving DecidableEq, Repr

/-- The fault in words. -/
def Fault.message : Fault → String
  | .malformed => "invalid filter directive"
  | .level =>
    "error parsing level filter: expected one of \"off\", \"error\", \"warn\", \"info\", "
      ++ "\"debug\", \"trace\", or a number 0-5"
  | .field fault => "invalid field filter: " ++ fault.message

/-- Why the reading of a directive stops. -/
inductive Stop
  /-- The text is no directive. -/
  | refused (fault : Fault)
  /-- The text was to be taken apart inside a character. -/
  | aborted
  deriving DecidableEq, Repr

/-! ### Reading -/

/-- Where a directive stands while it is read; the numbers are byte positions. -/
inductive State
  | start
  | levelOrTarget (first : Nat)
  | span (first : Nat)
  | field (first : Nat)
  | fields
  | target
  | level (first : Nat)

/-- The text between two byte positions.  A position inside a character ends the program. -/
def slice (whole : List Char) (first last : Nat) : Except Stop (List Char) :=
  match Text.slice? whole first last with
  | some cs => .ok cs
  | none => .error .aborted

/-- A verbosity, which is full if nothing is written. -/
def verbosityOf (cs : List Char) : Except Stop Verbosity :=
  if cs.isEmpty then .ok (.upTo .trace)
  else
    match Verbosity.ofText? cs with
    | some v => .ok v
    | none => .error (.refused .level)

/-- A field, which must not be empty. -/
def fieldOf (cs : List Char) : Except Stop Field :=
  if cs.isEmpty then .error (.refused .malformed)
  else
    match Field.ofText cs with
    | .ok field => .ok field
    | .error fault => .error (.refused (.field fault))

/-- The character can begin a directive that names no span. -/
def canStart (c : Char) : Bool := c == '-' || c == ':' || c == '_' || Text.isAlphanumeric c

/-- Takes one character, at byte position `i`, where `whole` is the text of the directive. -/
def step (whole : List Char) (i : Nat) (c : Char) (state : State) (d : Directive) :
    Except Stop (State × Directive) :=
  match state with
  | .start =>
    if c = '[' then .ok (.span (i + 1), d)
    else if canStart c then .ok (.levelOrTarget i, d)
    else .error (.refused .malformed)
  | .levelOrTarget a =>
    if c = '=' ∨ c = '[' then do
      let name ← slice whole a i
      return (if c = '=' then .level (i + 1) else .span (i + 1), { d with target? := some name })
    else .ok (.levelOrTarget a, d)
  | .span a =>
    if c = ']' then do
      let name ← slice whole a i
      return (.target, { d with span? := some name })
    else if c = '\x7b' then do
      let name ← slice whole a i
      return (.field (i + 1), { d with span? := if name.isEmpty then none else some name })
    else .ok (.span a, d)
  | .field a =>
    if c = '\x7d' then do
      let field ← fieldOf (← slice whole a i)
      return (.fields, { d with fields := d.fields ++ [field] })
    else .ok (.field a, d)
  | .fields => if c = ']' then .ok (.target, d) else .error (.refused .malformed)
  | .target => if c = '=' then .ok (.level (i + 1), d) else .error (.refused .malformed)
  | .level a => .ok (.level a, d)

/-- Takes the characters of a directive from byte position `i` on. -/
def run (whole : List Char) (i : Nat) (state : State) (d : Directive) :
    List Char → Except Stop (State × Directive)
  | [] => .ok (state, d)
  | c :: rest => do
    let (state, d) ← step whole i c state d
    run whole (i + c.utf8Size) state d rest

/-- Takes the end of a directive. -/
def finish (whole : List Char) (state : State) (d : Directive) : Except Stop Directive :=
  match state with
  | .levelOrTarget a => do
    let rest ← slice whole a (Text.byteSize whole)
    match Verbosity.ofText? rest with
    | some v => return { d with verbosity := v }
    | none => return { d with target? := some rest }
  | .level a => do
    let rest ← slice whole a (Text.byteSize whole)
    let verbosity ← verbosityOf rest
    return { d with verbosity }
  | .target => .ok d
  | _ => .error (.refused .malformed)

/-- Reads a directive.  Blanks around it are passed over, but positions are counted without the
    blanks in front and applied to the text with them. -/
def ofText (text : String) : Except Stop Directive := do
  let whole := text.toList
  let (state, d) ← run whole 0 .start {} (Text.trimChars whole)
  finish whole state d

/-! ### Events -/

/-- The directive has a say about events of a target.  Events happen outside all spans, and a
    message, with no value to compare, is the only field they have. -/
def appliesTo (d : Directive) (target : String) : Bool :=
  d.span?.isNone
    && d.fields.all (· == Field.message)
    && (d.target?.all fun t => t.isPrefixOf target.toList)

/-- How closely a directive is aimed: the length of its target, then the number of its fields. -/
def aim (d : Directive) : Nat × Nat :=
  ((d.target?.map fun t => t.length + 1).getD 0, d.fields.length)

/-- At least as closely aimed. -/
def atLeastAsClose (d e : Directive) : Bool :=
  e.aim.1 < d.aim.1 || (e.aim.1 == d.aim.1 && e.aim.2 ≤ d.aim.2)

end Directive

end MarketFeed.Log
