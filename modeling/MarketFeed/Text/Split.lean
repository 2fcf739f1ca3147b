namespace MarketFeed.Text

/-!
# Cutting a text at a character

* `splitOn` — the pieces between the occurrences of a character; there is always at least one piece.
* `lines` — the pieces between line feeds; `firstLine` — the first of them, without the end of it.
-/

/-- The pieces of a text between the occurrences of `sep`. -/
def splitChars (sep : Char) : List Char → List (List Char)
  | [] => [[]]
  | c :: cs =>
    if c = sep then [] :: splitChars sep cs
    else
      match splitChars sep cs with
      | [] => [[c]]
      | piece :: pieces => (c :: piece) :: pieces

/-- The pieces of a text between the occurrences of `sep`. -/
def splitOn (sep : Char) (text : String) : List String :=
  (splitChars sep text.toList).map String.ofList

/-- The lines of a text. -/
def lines (text : String) : List String := splitOn '\n' text

/-- The first line of a text.  It ends at a line feed, with perhaps a carriage return before it. -/
def firstLine (text : String) : String :=
  let cs := text.toList
  let line := cs.takeWhile (· != '\n')
  if line.length < cs.length ∧ line.getLast? = some '\r' then String.ofList line.dropLast
  else String.ofList line

@[simp] theorem splitChars_nil (sep : Char) : splitChars sep [] = [[]] := rfl

/-- A text has at least one piece. -/
theorem splitChars_ne_nil (sep : Char) (cs : List Char) : splitChars sep cs ≠ [] := by
  cases cs with
  | nil => simp
  | cons c cs =>
    simp only [splitChars]
    split
    · simp
    · split <;> simp

end MarketFeed.Text
