import MarketFeed.Log.Pattern.Atom
import MarketFeed.Log.Pattern.Nesting
import MarketFeed.Text.Alphanumeric

namespace MarketFeed.Log

/-!
# Patterns that can be read

A field of a log filter may ask for values that match a pattern.  Here a pattern is only told from a
text that is none: `Pattern.fault?` gives what is wrong with it.

* `Pattern.State` — what has been read: open groups and brackets, flags, names.
* `State.step` — reads one symbol, and gives the text after it; `scan` reads all of them.

A pattern stands between braces, so no `}` is in it, and what would need one, such as `a{2}`, cannot
be written.
-/

namespace Pattern

/-- Why a pattern cannot be used. -/
inductive Fault
  /-- It cannot be read. -/
  | unreadable
  /-- It asks for the edge of a word, by character. -/
  | wordEdge
  deriving DecidableEq, Repr

/-- The fault in words. -/
def Fault.message : Fault → String
  | .unreadable => "error building NFA"
  | .wordEdge =>
    "unsupported regex feature for DFAs: cannot build DFAs for regexes with Unicode word "
      ++ "boundaries; switch to ASCII word boundaries, or heuristically enable Unicode word "
      ++ "boundaries or use a different regex engine"

/-- What has been read of a pattern. -/
structure State where
  mode : Mode := {}
  /-- The innermost group. -/
  frame : Frame := {}
  /-- The groups around it, the nearest first. -/
  outer : List Frame := []
  /-- The open brackets, the innermost first. -/
  brackets : List Bracket := []
  /-- The names of groups. -/
  names : List (List Char) := []
  /-- The edge of a word was asked for, by character. -/
  hasWordEdge : Bool := false
  deriving DecidableEq, Repr

/-! ### Groups -/

/-- A group begins, and is read in the given mode. -/
def State.enter (s : State) (inside : Mode) : State :=
  { s with mode := inside, frame := { outside := s.mode }, outer := s.frame :: s.outer }

/-- A group ends, and flags set in it no longer hold. -/
def State.leave? (s : State) : Option State :=
  match s.outer with
  | [] => none
  | f :: fs =>
    some { s with
      mode := s.frame.outside
      frame := f.push (.node (1 + s.frame.depth))
      outer := fs }

/-- The name of a group: a letter or `_`, then letters, numbers, `_`, dots and brackets. -/
def isName : List Char → Bool
  | [] => false
  | c :: cs =>
    (c == '_' || Text.isAlphabetic c)
      && cs.all fun d => d == '_' || d == '.' || d == '[' || d == ']' || Text.isAlphanumeric d

/-- Reads the name of a group up to its `>`. -/
def State.openNamed? (s : State) (cs : List Char) : Option (State × List Char) :=
  let name := cs.takeWhile (· != '>')
  match cs.drop name.length with
  | [] => none
  | _ :: rest =>
    if isName name && !s.names.contains name then
      some ({ s with names := name :: s.names }.enter s.mode, rest)
    else none

/-- Reads flags: with a parenthesis after them they hold for the rest of the group, with a colon for
    a group of their own. -/
def State.openFlags? (s : State) (cs : List Char) : Option (State × List Char) :=
  let flags := cs.takeWhile fun c => c != ':' && c != ')'
  if !areFlags flags then none
  else
    match cs.drop flags.length with
    | [] => none
    | c :: rest =>
      if c = ':' then some (s.enter (s.mode.apply flags), rest)
      else if flags.isEmpty then none
      else some ({ s with mode := s.mode.apply flags, frame := s.frame.push .flags }, rest)

/-- Reads the beginning of a group after its parenthesis. -/
def State.openGroup? (s : State) (rest : List Char) : Option (State × List Char) :=
  match s.mode.skip rest with
  | '?' :: 'P' :: '<' :: cs => s.openNamed? cs
  | '?' :: '<' :: cs => s.openNamed? cs
  | '?' :: cs => s.openFlags? cs
  | cs => some (s.enter s.mode, cs)

/-! ### Brackets -/

/-- The names of the ASCII classes. -/
def asciiClassNames : List String :=
  ["alnum", "alpha", "ascii", "blank", "cntrl", "digit", "graph", "lower", "print", "punct",
   "space", "upper", "word", "xdigit"]

/-- Reads an ASCII class such as `[:alpha:]` or `[:^alpha:]` after its bracket, and tells whether it
    is negated. -/
def readAsciiClass? : List Char → Option (Bool × List Char)
  | ':' :: cs =>
    let (negated, cs) := match cs with
      | '^' :: rest => (true, rest)
      | _ => (false, cs)
    let name := cs.takeWhile (· != ':')
    match cs.drop name.length with
    | ':' :: ']' :: rest =>
      if asciiClassNames.contains (String.ofList name) then some (negated, rest) else none
    | _ => none
  | _ => none

/-- An ASCII class can be matched in the mode. -/
def allowsAsciiClass (m : Mode) (negated : Bool) : Bool :=
  if m.byCharacter then !m.ignoresCase else !negated

/-- Reads a character or a class in brackets. -/
def readMember? (m : Mode) : List Char → Option (Atom × List Char)
  | [] => none
  | c :: cs => if c = '\\' then readEscape? m cs else some (.literal c false, cs)

/-- The atoms are the ends of a range of characters. -/
def isRange : Atom → Atom → Bool
  | .literal a _, .literal b _ => a ≤ b
  | _, _ => false

/-- Passes over a member of a class, which may be a range.  A dash makes a range unless a closing
    bracket or another dash follows it. -/
def passMember? (m : Mode) (cs : List Char) : Option (List Char) := do
  let (first, rest) ← readMember? m cs
  guard (first.allowedInBrackets m)
  match m.skip rest with
  | '-' :: more =>
    if m.peek? more = some ']' ∨ m.peek? more = some '-' then some ('-' :: more)
    else do
      let (last, rest) ← readMember? m (m.skip more)
      guard (last.allowedInBrackets m && isRange first last)
      some rest
  | rest => some rest

/-- A class in brackets begins; by byte it must not be negated. -/
def State.openBracket? (s : State) (rest : List Char) : Option (State × List Char) :=
  let inside := { s with brackets := {} :: s.brackets }
  match s.mode.skip rest with
  | '^' :: cs => if s.mode.byCharacter then some (inside, cs) else none
  | cs => some (inside, cs)

/-- Reads one symbol of the class in brackets `b`, inside of `bs`. -/
def State.bracketStep (s : State) (b : Bracket) (bs : List Bracket) (c : Char) (rest : List Char) :
    Option (State × List Char) :=
  if b.atStart && c == '-' then
    if (Atom.literal c false).allowedInBrackets s.mode then
      some ({ s with brackets := { b with members := 0 :: b.members } :: bs }, rest)
    else none
  else if c == ']' && !(b.atStart && b.members.isEmpty) then
    match bs with
    | [] => some ({ s with brackets := [], frame := s.frame.push (.node (1 + b.depth)) }, rest)
    | p :: ps => some ({ s with brackets := p.push (1 + b.depth) :: ps }, rest)
  else if c == '[' then
    match readAsciiClass? rest with
    | some (negated, rest) =>
      if allowsAsciiClass s.mode negated then some ({ s with brackets := b.push 0 :: bs }, rest)
      else none
    | none => { s with brackets := { b with atStart := false } :: bs }.openBracket? rest
  else if (c == '&' || c == '-' || c == '~') && rest.head? == some c then
    some ({ s with brackets := b.operator :: bs }, rest.drop 1)
  else if c == ']' then
    if (Atom.literal c false).allowedInBrackets s.mode then
      some ({ s with brackets := b.push 0 :: bs }, rest)
    else none
  else (passMember? s.mode (c :: rest)).map fun rest =>
    ({ s with brackets := b.push 0 :: bs }, rest)

/-! ### The whole pattern -/

/-- The state after an atom that stands by itself. -/
def State.add? (s : State) (a : Atom) : Option State :=
  if a.allowed s.mode then
    some { s with
      frame := s.frame.push (.node 0)
      hasWordEdge := s.hasWordEdge || (a == .wordEdge && s.mode.byCharacter) }
  else none

/-- Reads one symbol outside brackets. -/
def State.textStep (s : State) (c : Char) (rest : List Char) : Option (State × List Char) :=
  if c = '(' then s.openGroup? rest
  else if c = ')' then s.leave?.map fun s => (s, rest)
  else if c = '|' then some ({ s with frame := s.frame.nextBranch }, rest)
  else if c = '[' then s.openBracket? rest
  else if c = '?' ∨ c = '*' ∨ c = '+' then
    s.frame.repeatLast?.map fun frame =>
      ({ s with frame }, if rest.head? = some '?' then rest.drop 1 else rest)
  else if c = '\x7b' then none
  else if c = '\\' then do
    let (a, rest) ← readEscape? s.mode rest
    return (← s.add? a, rest)
  else
    let a := if c = '.' then Atom.any else if c = '^' ∨ c = '$' then .anchor else .literal c false
    (s.add? a).map fun s => (s, rest)

/-- Reads one symbol. -/
def State.step (s : State) (c : Char) (rest : List Char) : Option (State × List Char) :=
  if s.mode.spaced && (Text.isBlank c || c == '#') then some (s, s.mode.skip (c :: rest))
  else
    match s.brackets with
    | b :: bs => s.bracketStep b bs c rest
    | [] => s.textStep c rest

/-- Reads all symbols of a text, of which the first `passed` characters are read already. -/
def scan (passed : Nat) (s : State) : List Char → Option State
  | [] => some s
  | c :: rest =>
    match passed with
    | n + 1 => scan n s rest
    | 0 =>
      match s.step c rest with
      | some (s, left) => scan (rest.length - left.length) s rest
      | none => none

/-- The levels that a pattern may have. -/
def maxDepth : Nat := 250

/-- Nothing is left open, and the pattern is not nested too deeply. -/
def State.isComplete (s : State) : Bool :=
  s.outer.isEmpty && s.brackets.isEmpty && s.frame.depth ≤ maxDepth

/-- What is wrong with a pattern. -/
def fault? (cs : List Char) : Option Fault :=
  match scan 0 {} cs with
  | none => some .unreadable
  | some s =>
    if !s.isComplete then some .unreadable
    else if s.hasWordEdge then some .wordEdge
    else none

end Pattern

end MarketFeed.Log
