import MarketFeed.Json.Value

namespace MarketFeed

/-!
# Command frames

A command is one JSON object on one line.  Exchanges document their commands with blanks in odd
places, and the documented spelling is kept.

* `Cell` — the value of a member: a JSON value, or a text set between quotes as it is.
* `Member` — a name and a value, and where blanks stand around them.
* `Frame` — the members of one command in order; `Frame.text` writes it.
-/

/-- The value of a member. -/
inductive Cell
  /-- A JSON value in compact form. -/
  | json (value : Json)
  /-- A text between quotes, without escapes: it is taken to be free of quotes, backslashes and
      control characters. -/
  | spliced (text : String)
  deriving Inhabited

/-- One member of a command. -/
structure Member where
  name : String
  value : Cell
  /-- A blank stands before the name. -/
  spaceBefore : Bool := false
  /-- A blank stands before the value. -/
  spaceAfter : Bool := false
  deriving Inhabited

/-- One command. -/
structure Frame where
  members : List Member
  deriving Inhabited

/-! ### Writing -/

/-- The value as it is written. -/
def Cell.text : Cell → String
  | .json v => v.compact
  | .spliced t => "\"" ++ t ++ "\""

/-- The member as it is written, without the commas around it. -/
def Member.text (m : Member) : String :=
  (if m.spaceBefore then " " else "") ++ "\"" ++ m.name ++ "\":"
    ++ (if m.spaceAfter then " " else "") ++ m.value.text

/-- The command as it is sent. -/
def Frame.text (f : Frame) : String :=
  "\x7b" ++ Json.joinCommas (f.members.map Member.text) ++ "\x7d"

/-- The names of the members, in order. -/
def Frame.names (f : Frame) : List String := f.members.map Member.name

/-! ### Abbreviations for members -/

/-- A member that holds a text of the format itself. -/
def Member.word (name word : String) : Member where
  name := name
  value := .json (.string word)

/-- A member that holds a text set between quotes as it is. -/
def Member.splice (name text : String) : Member where
  name := name
  value := .spliced text

/-- The member with a blank before its name. -/
def Member.apart (m : Member) : Member := { m with spaceBefore := true }

/-- The member with a blank before its value. -/
def Member.loose (m : Member) : Member := { m with spaceAfter := true }

end MarketFeed
