namespace MarketFeed.Text.Terminal

/-!
# Text on a terminal

A terminal takes some characters as commands.  Where a text is kept and not shown, the commands are
taken out of it, with the sequences that an escape character begins.

* `State`, `step` — where a text stands between its characters, and one character of it.
* `shown`, `withoutCommands` — what is left of a text.
* `emphasised` — a text that a terminal shows emphasised.
* `shown_eq_self` — a text without controls is left as it is.
-/

/-- Where a text stands between two characters. -/
inductive State
  /-- Outside all sequences. -/
  | text
  /-- After an escape character. -/
  | escape
  /-- In an escape sequence of several characters, before its last. -/
  | intermediate
  /-- After `[`: a sequence that a letter or another sign from `@` on ends. -/
  | control
  /-- After `]`: a command to the system, which the bell ends. -/
  | command
  /-- In a string for a device, which only another sequence ends. -/
  | string
  deriving DecidableEq, Repr

/-- A control character that only lays out text: it is kept. -/
def isLayout (c : Char) : Bool := c == '\t' || c == '\n' || c == '\x0c' || c == '\r'

/-- The character shows by itself: it is layout, or no ASCII control. -/
def isShown (c : Char) : Bool := isLayout c || (0x20 ≤ c.toNat && c.toNat != 0x7f)

/-- The sequence that a character after the escape character begins; most are complete with it. -/
def State.afterEscape (c : Char) : State :=
  if c = '[' then .control
  else if c = ']' then .command
  else if c = 'P' ∨ c = 'X' ∨ c = '^' ∨ c = '_' then .string
  else if 0x20 ≤ c.toNat ∧ c.toNat ≤ 0x2f then .intermediate
  else if 0x30 ≤ c.toNat ∧ c.toNat ≤ 0x7e then .text
  else .escape

/-- The state after a character that ends the sequence if it lies between `first` and `~`. -/
def State.endFrom (s : State) (first : Nat) (c : Char) : State :=
  if first ≤ c.toNat ∧ c.toNat ≤ 0x7e then .text else s

/-- Takes one ASCII character inside a sequence. -/
def insideStep (s : State) (c : Char) : List Char × State :=
  match s with
  | .command => ([], if c = '\x07' then .text else s)
  | .string => ([], s)
  | .text => ([c], s)
  | .escape => if isLayout c then ([c], .text) else ([], .afterEscape c)
  | .intermediate => if isLayout c then ([c], .text) else ([], s.endFrom 0x30 c)
  | .control => if isLayout c then ([c], .text) else ([], s.endFrom 0x40 c)

/-- Takes one character, and gives what is left of it.  Inside a sequence the first byte of a
    character of several bytes is lost, and the others are no characters. -/
def step (s : State) (c : Char) : List Char × State :=
  if c = '\x1b' then ([], .escape)
  else if c = '\x18' ∨ c = '\x1a' then ([], .text)
  else if s = .text then (if isShown c then [c] else [], .text)
  else if c.toNat < 0x80 then insideStep s c
  else (List.replicate (c.utf8Size - 1) '\ufffd', .text)

/-- What is left of a text. -/
def shown (s : State) : List Char → List Char
  | [] => []
  | c :: cs => (step s c).1 ++ shown (step s c).2 cs

/-- The text without terminal commands. -/
def withoutCommands (s : String) : String := String.ofList (shown .text s.toList)

/-- The text between a command that emphasises and one that ends all emphasis. -/
def emphasised (s : String) : String := "\x1b[1m" ++ s ++ "\x1b[0m"

/-! ### Texts without controls -/

/-- A shown character is shown, and text goes on. -/
theorem step_text {c : Char} (h : isShown c) : step .text c = ([c], .text) := by
  have escape : c ≠ '\x1b' := by rintro rfl; exact absurd h (by decide)
  have cancel : c ≠ '\x18' := by rintro rfl; exact absurd h (by decide)
  have substitute : c ≠ '\x1a' := by rintro rfl; exact absurd h (by decide)
  simp [step, escape, cancel, substitute, h]

/-- A text without controls is left as it is. -/
theorem shown_eq_self {cs : List Char} (h : ∀ c ∈ cs, isShown c) : shown .text cs = cs := by
  induction cs with
  | nil => rfl
  | cons c cs ih =>
    rw [shown, step_text (h c List.mem_cons_self)]
    exact congrArg (c :: ·) (ih fun d hd => h d (List.mem_cons_of_mem c hd))

end MarketFeed.Text.Terminal
