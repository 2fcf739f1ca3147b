import MarketFeed.Log.Pattern.Mode

namespace MarketFeed.Log.Pattern

/-!
# Open groups and brackets

While a pattern is read, only the depths of its finished parts are kept.

* `Frame` — the text between two parentheses, or the whole: branches between bars, each a sequence
  of parts.
* `Bracket` — a class between brackets: members, perhaps after an operator.
* `sequenceDepth` — one part stands for itself; a sequence of several is a level of its own.
-/

/-! ### Depths -/

/-- The greatest depth. -/
def deepest (depths : List Nat) : Nat := depths.foldl Nat.max 0

/-- The depth of parts in sequence. -/
def sequenceDepth : List Nat → Nat
  | [] => 0
  | [d] => d
  | ds => 1 + deepest ds

/-! ### Groups -/

/-- A part of a sequence. -/
inductive Part
  /-- Flags, which match nothing. -/
  | flags
  /-- Something to match, with so many levels in it. -/
  | node (depth : Nat)
  deriving DecidableEq, Repr

/-- The levels in a part. -/
def Part.depth : Part → Nat
  | .flags => 0
  | .node d => d

/-- What has been read between two parentheses. -/
structure Frame where
  /-- The mode in force outside. -/
  outside : Mode := {}
  /-- The parts of the branch that is being read, the last one first. -/
  parts : List Part := []
  /-- The depths of the branches before it. -/
  branches : List Nat := []
  deriving DecidableEq, Repr

/-- The frame with one more part. -/
def Frame.push (f : Frame) (p : Part) : Frame := { f with parts := p :: f.parts }

/-- The depth of the branch that is being read. -/
def Frame.branchDepth (f : Frame) : Nat := sequenceDepth (f.parts.map Part.depth)

/-- The frame after a bar. -/
def Frame.nextBranch (f : Frame) : Frame :=
  { f with parts := [], branches := f.branchDepth :: f.branches }

/-- The depth of all that was read. -/
def Frame.depth (f : Frame) : Nat :=
  if f.branches.isEmpty then f.branchDepth else 1 + deepest (f.branchDepth :: f.branches)

/-- The frame with its last part repeated.  There must be one, and it must not be flags. -/
def Frame.repeatLast? (f : Frame) : Option Frame :=
  match f.parts with
  | .node d :: ps => some { f with parts := .node (1 + d) :: ps }
  | _ => none

/-! ### Brackets -/

/-- What has been read of a class between brackets. -/
structure Bracket where
  /-- At the start, where dashes and a closing bracket stand for themselves. -/
  atStart : Bool := true
  /-- The depths of the members since the last operator, the last one first. -/
  members : List Nat := []
  /-- The depth of what stands before the last operator. -/
  left? : Option Nat := none
  deriving DecidableEq, Repr

/-- The bracket with one more member. -/
def Bracket.push (b : Bracket) (depth : Nat) : Bracket :=
  { b with atStart := false, members := depth :: b.members }

/-- The depth of what stands between the brackets. -/
def Bracket.depth (b : Bracket) : Nat :=
  let d := sequenceDepth b.members
  match b.left? with
  | none => d
  | some left => 1 + Nat.max left d

/-- The bracket after an operator; operators bind to the left. -/
def Bracket.operator (b : Bracket) : Bracket where
  atStart := false
  left? := some b.depth

end MarketFeed.Log.Pattern
