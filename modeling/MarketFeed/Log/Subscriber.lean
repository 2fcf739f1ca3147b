import MarketFeed.Files
import MarketFeed.Json.Value
import MarketFeed.Log.Filter

namespace MarketFeed.Log

/-!
# Writing a log

Events are written to a console, which shows them in colours, and perhaps to a file, which has none.

* `escapeForTerminal` — a character that could steer a terminal, made visible.
* `Layer`, `Layer.entry` — a place where a log is written, and an event as it stands there: level,
  target and message, behind a time that is not kept here.
* `withoutStyle` — a text without the sequences that set a style.
* `LogFile` — a log file and its entries.
* `Subscriber`, `Subscriber.take`, `Subscriber.run` — a filter and the layers behind it; each layer
  writes down for itself what the filter lets through.
-/

/-! ### Styles -/

/-- A character as it is written to a log: those that begin or act as terminal sequences are written
    as escapes. -/
def escapeForTerminal (c : Char) : List Char :=
  if c = '\x1b' then "\\x1b".toList
  else if c = '\x07' then "\\x07".toList
  else if c = '\x08' then "\\x08".toList
  else if c = '\x0c' then "\\x0c".toList
  else if c = '\x7f' then "\\x7f".toList
  else if 0x80 ≤ c.toNat ∧ c.toNat ≤ 0x9f then
    "\\u\x7b".toList ++ [Json.hexDigit (c.toNat / 16), Json.hexDigit (c.toNat % 16)] ++ ['\x7d']
  else [c]

/-- The colour of a level, by its number on a terminal. -/
def Level.colour : Level → String
  | .error => "31"
  | .warn => "33"
  | .info => "32"
  | .debug => "34"
  | .trace => "35"

/-- The level in a column of five characters. -/
def Level.column (l : Level) : String :=
  if l.label.length < 5 then " " ++ l.label else l.label

/-- The text without the sequences that set a style; `inside` if it begins inside one. -/
def withoutStyleChars (inside : Bool) : List Char → List Char
  | [] => []
  | c :: cs =>
    if inside then withoutStyleChars (c != 'm') cs
    else if c = '\x1b' then withoutStyleChars true cs
    else c :: withoutStyleChars false cs

/-- The text without the sequences that set a style. -/
def withoutStyle (text : String) : String := String.ofList (withoutStyleChars false text.toList)

/-! ### Layers -/

/-- A place where a log is written. -/
structure Layer where
  /-- Texts are set in colours, and dimmed. -/
  styled : Bool
  deriving DecidableEq, Repr

namespace Layer

/-- The layer that writes to the error stream. -/
def console : Layer where
  styled := true

/-- The layer that writes to a file. -/
def file : Layer where
  styled := false

/-- A text in a style, if the layer has styles. -/
def paint (l : Layer) (style text : String) : String :=
  if l.styled then "\x1b[" ++ style ++ "m" ++ text ++ "\x1b[0m" else text

/-- A text that stands back. -/
def dim (l : Layer) (text : String) : String := l.paint "2" text

/-- An event as the layer writes it down, without the time in front and the line feed behind. -/
def entry (l : Layer) (e : Event) : String :=
  l.paint e.level.colour e.level.column ++ " " ++ l.dim e.target ++ l.dim ":" ++ " "
    ++ String.ofList (e.message.toList.flatMap escapeForTerminal)

end Layer

/-! ### Log files -/

/-- A log file: its place, without the date that ends its name, and its entries. -/
structure LogFile where
  directory : String
  name : String
  entries : List String := []
  deriving DecidableEq, Repr

/-- The path of a log file on some date. -/
def LogFile.path (f : LogFile) (date : String) : String :=
  Path.join f.directory (if f.name = "" then date else f.name ++ "." ++ date)

/-- The lines of a log file.  A message with line feeds takes several. -/
def LogFile.lines (f : LogFile) : List String := f.entries.flatMap Text.lines

/-- The file with one more entry. -/
def LogFile.append (f : LogFile) (entry : String) : LogFile :=
  { f with entries := f.entries ++ [entry] }

/-! ### Subscribers -/

/-- A filter, and what was written behind it. -/
structure Subscriber where
  filter : Filter
  /-- The events that passed. -/
  events : List Event := []
  /-- What the console layer wrote of them. -/
  console : List String := []
  /-- The file of the file layer, if there is one. -/
  file? : Option LogFile := none

namespace Subscriber

/-- An event happens: if it passes, each layer writes it down. -/
def take (s : Subscriber) (e : Event) : Subscriber :=
  if s.filter.enabled e then
    { s with
      events := s.events ++ [e]
      console := s.console ++ [Layer.console.entry e]
      file? := s.file?.map fun f => f.append (Layer.file.entry e) }
  else s

/-- Some events happen one after another. -/
def run (s : Subscriber) (events : List Event) : Subscriber := events.foldl take s

end Subscriber

end MarketFeed.Log
