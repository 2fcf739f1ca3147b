import MarketFeed.Text.Blank

namespace MarketFeed.Log.Pattern

/-!
# Flags of a pattern

A pattern may change how the rest of it is read: `(?i)` makes the case of letters not matter,
`(?-u)` takes text as bytes, `(?x)` lets blanks and comments stand between its parts.

* `Mode` — the flags that bear on whether a pattern can be read.
* `areFlags`, `Mode.apply` — flags as they are written, and what they change.
* `Mode.skip`, `Mode.peek?` — blanks and comments passed over.
-/

/-- How a pattern is read from some place on. -/
structure Mode where
  /-- The case of letters does not matter. -/
  ignoresCase : Bool := false
  /-- Text is taken as characters of any script, and not as bytes. -/
  byCharacter : Bool := true
  /-- Blanks, and comments from `#` to the end of the line, do not count. -/
  spaced : Bool := false
  deriving DecidableEq, Repr

/-! ### Flags -/

/-- The letters that are flags. -/
def flagLetters : List Char := ['i', 'm', 's', 'U', 'u', 'R', 'x']

/-- Some element occurs twice. -/
def hasRepeat : List Char → Bool
  | [] => false
  | c :: cs => cs.contains c || hasRepeat cs

/-- Flags are letters, none of them twice, with perhaps one dash that some letter follows. -/
def areFlags (flags : List Char) : Bool :=
  flags.all (fun c => c == '-' || flagLetters.contains c)
    && !hasRepeat flags && flags.getLast? != some '-'

/-- What the flags say about one of them: a letter before the dash turns it on, one after it off. -/
def setting? (flags : List Char) (flag : Char) : Option Bool :=
  if !flags.contains flag then none
  else some ((flags.takeWhile (· != '-')).contains flag)

/-- The mode with the flags applied. -/
def Mode.apply (m : Mode) (flags : List Char) : Mode where
  ignoresCase := (setting? flags 'i').getD m.ignoresCase
  byCharacter := (setting? flags 'u').getD m.byCharacter
  spaced := (setting? flags 'x').getD m.spaced

/-! ### Blanks -/

/-- The text without the blanks and comments in front; `inComment` if it begins in a comment. -/
def afterBlanks (inComment : Bool) : List Char → List Char
  | [] => []
  | c :: cs =>
    if inComment then afterBlanks (c != '\n') cs
    else if Text.isBlank c then afterBlanks false cs
    else if c == '#' then afterBlanks true cs
    else c :: cs

/-- The text without what does not count in front. -/
def Mode.skip (m : Mode) (cs : List Char) : List Char :=
  if m.spaced then afterBlanks false cs else cs

/-- The character that comes next, past blanks and past the `#` of a comment, though not past its
    words; the first character if there is nothing else. -/
def Mode.peek? (m : Mode) (cs : List Char) : Option Char :=
  if m.spaced then
    let next? := match cs.dropWhile Text.isBlank with
      | '#' :: rest => (rest.dropWhile Text.isBlank).head?
      | rest => rest.head?
    next?.or cs.head?
  else cs.head?

end MarketFeed.Log.Pattern
