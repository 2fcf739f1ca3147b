namespace MarketFeed

/-!
# JSON values and their compact form

* `Json` — a value tree.  Members of an object keep their order and may repeat; a number is kept as
  it is written.
* `Json.quote` — a text as a string literal: only what must be escaped is escaped, each character in
  its shortest form.
* `Json.compact` — a value on one line without blanks.
-/

/-- A JSON value. -/
inductive Json
  | null
  | bool (value : Bool)
  | number (literal : String)
  | string (value : String)
  | array (items : List Json)
  | object (members : List (String × Json))
  deriving Repr, Inhabited

namespace Json

/-! ### String literals -/

/-- The lower-case hexadecimal digit of a number below sixteen. -/
def hexDigit (n : Nat) : Char :=
  if n < 10 then Char.ofNat (0x30 + n) else Char.ofNat (0x57 + n)

/-- One character inside a string literal. -/
def escape (c : Char) : List Char :=
  if c = '"' then ['\\', '"']
  else if c = '\\' then ['\\', '\\']
  else if c = '\x08' then ['\\', 'b']
  else if c = '\t' then ['\\', 't']
  else if c = '\n' then ['\\', 'n']
  else if c = '\x0c' then ['\\', 'f']
  else if c = '\r' then ['\\', 'r']
  else if c.toNat < 0x20 then
    ['\\', 'u', '0', '0', hexDigit (c.toNat / 16), hexDigit (c.toNat % 16)]
  else [c]

/-- The characters of a string literal. -/
def quoteChars (cs : List Char) : List Char := '"' :: cs.flatMap escape ++ ['"']

/-- The text as a string literal. -/
def quote (s : String) : String := String.ofList (quoteChars s.toList)

/-- The characters of a string literal. -/
@[simp] theorem toList_quote (s : String) : (quote s).toList = quoteChars s.toList :=
  String.toList_ofList

/-! ### Values -/

/-- Texts one after another, with commas between them. -/
def joinCommas : List String → String
  | [] => ""
  | [t] => t
  | t :: u :: ts => t ++ "," ++ joinCommas (u :: ts)

@[simp] theorem joinCommas_nil : joinCommas [] = "" := rfl

@[simp] theorem joinCommas_singleton (t : String) : joinCommas [t] = t := rfl

@[simp] theorem joinCommas_cons_cons (t u : String) (ts : List String) :
    joinCommas (t :: u :: ts) = t ++ "," ++ joinCommas (u :: ts) := rfl

mutual

/-- The value on one line, without blanks outside string literals. -/
def compact : Json → String
  | .null => "null"
  | .bool true => "true"
  | .bool false => "false"
  | .number literal => literal
  | .string s => quote s
  | .array items => "[" ++ joinCommas (compactItems items) ++ "]"
  | .object members => "\x7b" ++ joinCommas (compactMembers members) ++ "\x7d"

/-- The items of an array, each in compact form. -/
def compactItems : List Json → List String
  | [] => []
  | v :: vs => compact v :: compactItems vs

/-- The members of an object, each as `name:value`. -/
def compactMembers : List (String × Json) → List String
  | [] => []
  | (name, v) :: ms => (quote name ++ ":" ++ compact v) :: compactMembers ms

end

/-- The items of a list are written one by one. -/
theorem compactItems_eq_map (vs : List Json) : compactItems vs = vs.map compact := by
  induction vs with
  | nil => rfl
  | cons v vs ih => simp [compactItems, ih]

/-- The array of some texts. -/
def ofStrings (texts : List String) : Json := .array (texts.map .string)

end Json

end MarketFeed
