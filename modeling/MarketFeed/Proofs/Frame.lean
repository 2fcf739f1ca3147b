import MarketFeed.Frame
import MarketFeed.Proofs.Fallible
import MarketFeed.Proofs.Json.Write

namespace MarketFeed

/-!
# Frames are JSON objects

* `IsPlain` — a text that a string literal may hold as it is.
* `IsLiteral` — a text that makes a string literal when it is set between quotes.
* `Cell.Spells`, `Member.Spells` — what a cell and a member stand for.
* `Frame.document` — a frame is one JSON object, with the members that its own stand for.
* `Frame.printable` — such a frame has no control characters.
-/

open Json

/-! ### Texts between quotes -/

/-- The text holds no quotes, backslashes and control characters. -/
def IsPlain (text : String) : Prop :=
  ∀ c ∈ text.toList, c ≠ '"' ∧ c ≠ '\\' ∧ 0x20 ≤ c.toNat

instance (text : String) : Decidable (IsPlain text) :=
  List.decidableBAll (fun c : Char => c ≠ '"' ∧ c ≠ '\\' ∧ 0x20 ≤ c.toNat) text.toList

/-- Between quotes the text is a string literal for `s`. -/
def IsLiteral (text s : String) : Prop := StringBody s.toList (text.toList ++ ['"']) []

/-- A plain text is a literal for itself. -/
theorem IsPlain.isLiteral {text : String} (h : IsPlain text) : IsLiteral text text := by
  unfold IsPlain at h
  unfold IsLiteral
  -- the induction is on the characters, each of which stands for itself
  generalize text.toList = cs at h
  induction cs with
  | nil => exact .close
  | cons c cs ih =>
    obtain ⟨hquote, hslash, hcontrol⟩ := h c List.mem_cons_self
    exact .plain hquote hslash hcontrol (ih fun d hd => h d (List.mem_cons_of_mem c hd))

/-- What comes after a string literal does not change it. -/
theorem Json.StringBody.append {s text rest : List Char} (h : StringBody s text rest)
    (more : List Char) : StringBody s (text ++ more) (rest ++ more) := by
  induction h with
  | close => exact .close
  | plain hquote hslash hcontrol _ ih => exact .plain hquote hslash hcontrol ih
  | short hshort _ ih => exact .short hshort ih
  | unicode hword _ ih => exact .unicode hword ih
  | pair hhigh hlow hhigh' hlow' hc _ ih => exact .pair hhigh hlow hhigh' hlow' hc ih

/-- A literal is the inside of a string whatever follows its closing quote. -/
theorem IsLiteral.body {text s : String} (h : IsLiteral text s) (rest : List Char) :
    StringBody s.toList (text.toList ++ '"' :: rest) rest := by
  have happend := StringBody.append h rest
  rwa [List.append_assoc] at happend

/-! ### Cells and members -/

/-- The cell stands for the value. -/
def Cell.Spells : Cell → Json → Prop
  | .json v, w => v.Proper ∧ w = v
  | .spliced t, w => ∃ s, w = .string s ∧ IsLiteral t s

/-- The member stands for the name and the value. -/
structure Member.Spells (m : Member) (entry : String × Json) : Prop where
  name : entry.1 = m.name
  plain : IsPlain m.name
  value : m.value.Spells entry.2

/-- The text of a cell spells the value that it is for. -/
theorem Cell.Spells.spelled {cell : Cell} {w : Json} (h : cell.Spells w) (rest : List Char) :
    Spelled w (cell.text.toList ++ rest) rest := by
  cases cell with
  | json v =>
    obtain ⟨hv, rfl⟩ := h
    exact hv.spelled _ rest
  | spliced t =>
    obtain ⟨s, rfl, hs⟩ := h
    have hbody := hs.body rest
    rw [Cell.text, String.toList_append, String.toList_append, List.append_assoc, List.append_assoc]
    exact .string hbody

/-- A blank, or none. -/
def blank (flag : Bool) : List Char := if flag then [' '] else []

/-- One blank or none is passed over. -/
theorem Json.Spaces.blank (flag : Bool) (rest : List Char) : Spaces (blank flag ++ rest) rest := by
  cases flag with
  | true => exact .some (by decide) .none
  | false => exact .none

/-- The characters of a member: its name, a colon, and its value. -/
theorem Member.toList_text (m : Member) :
    m.text.toList = blank m.spaceBefore ++ '"' :: (m.name.toList ++ '"' :: ':' ::
      (blank m.spaceAfter ++ m.value.text.toList)) := by
  have hblank : ∀ flag : Bool, (if flag then " " else "").toList = MarketFeed.blank flag := by
    intro flag
    cases flag <;> rfl
  simp [Member.text, hblank]

/-- The text of a member spells the entry that it is for. -/
theorem Member.Spells.spelled {m : Member} {entry : String × Json} (h : m.Spells entry)
    (rest : List Char) : MemberSpelled entry.1 entry.2 (m.text.toList ++ rest) rest := by
  have hvalue := h.value.spelled rest
  have hafter := Spaces.blank m.spaceAfter (m.value.text.toList ++ rest)
  have hname := h.plain.isLiteral.body
  rw [h.name, Member.toList_text]
  simp only [List.append_assoc, List.cons_append]
  exact .mk (.blank _ _) (hname _) .none hafter hvalue

/-! ### Frames -/

/-- The comma in front of a member. -/
def lead (first : Bool) : List Char := if first then [] else [',']

/-- What leads a member is a comma, unless the member is the first. -/
theorem Json.Comma.lead (first : Bool) (text : List Char) : Comma first (lead first ++ text) text := by
  cases first with
  | true => exact .absent
  | false => exact .present .none

/-- Some members with the commas in front of them. -/
def membersText : Bool → List Member → List Char
  | _, [] => []
  | first, m :: ms => lead first ++ (m.text.toList ++ membersText false ms)

/-- Members behind others begin with a comma each. -/
theorem membersText_false (members : List Member) :
    membersText false members = afterCommas (members.map Member.text) := by
  induction members with
  | nil => rfl
  | cons m ms ih => rw [membersText, ih, List.map_cons, afterCommas, afterCommas, List.flatMap_cons]; rfl

/-- The characters of a frame: its members between braces. -/
theorem Frame.toList_text (f : Frame) :
    f.text.toList = '{' :: (membersText true f.members ++ ['}']) := by
  have hmembers : (joinCommas (f.members.map Member.text)).toList = membersText true f.members := by
    cases f.members with
    | nil => rfl
    | cons m ms => rw [List.map_cons, toList_joinCommas_cons, membersText, membersText_false]; rfl
  simp [Frame.text, hmembers]

/-- Members spell the entries they stand for, up to the closing bracket. -/
theorem membersSpelled_of_spells {members : List Member} {entries : List (String × Json)}
    (h : List.Forall₂ Member.Spells members entries) (first : Bool) (rest : List Char) :
    MembersSpelled first entries (membersText first members ++ '}' :: rest) rest := by
  induction h generalizing first with
  | nil => exact .done .none
  | @cons m entry ms entries hm _ ih =>
    have hspelled := hm.spelled (membersText false ms ++ '}' :: rest)
    rw [membersText, List.append_assoc, List.append_assoc]
    exact .member (.lead first _) hspelled (ih false)

/-- **A frame is one JSON object**, with the members that its own members stand for. -/
theorem Frame.document {f : Frame} {entries : List (String × Json)}
    (h : List.Forall₂ Member.Spells f.members entries) :
    Document (.object entries) f.text.toList := by
  rw [Frame.toList_text]
  exact ⟨_, [], .none, .object (membersSpelled_of_spells h true []), .none⟩

/-! ### Control characters -/

/-- A hexadecimal digit is no control character. -/
theorem printable_of_hexValue? {c : Char} {n : Nat} (h : Text.hexValue? c = some n) :
    0x20 ≤ c.toNat := by
  by_contra hc
  have hall : ∀ k : Fin 0x20, Text.hexValue? (Char.ofNat k) = none := by decide
  have hnone := hall ⟨c.toNat, by omega⟩
  rw [Char.ofNat_toNat, h] at hnone
  cases hnone

theorem printable_of_hexWord? {a b c d : Char} {n : Nat} (h : hexWord? a b c d = some n) :
    Printable [a, b, c, d] := by
  simp only [hexWord?, bind, Option.bind_eq_some_iff] at h
  obtain ⟨na, ha, nb, hb, nc, hc, nd, hd, -⟩ := h
  simp only [Printable.cons_iff]
  exact ⟨printable_of_hexValue? ha, printable_of_hexValue? hb, printable_of_hexValue? hc,
    printable_of_hexValue? hd, by decide⟩

/-- A string literal has no control characters. -/
theorem Json.StringBody.printable {s text rest : List Char} (h : StringBody s text rest) :
    ∃ literal, text = literal ++ rest ∧ Json.Printable literal := by
  have hmark : Json.Printable ['\\', 'u'] := by decide
  induction h with
  | close => exact ⟨['"'], rfl, by decide⟩
  | @plain c s text rest _ _ hcontrol _ ih =>
    obtain ⟨literal, rfl, hliteral⟩ := ih
    exact ⟨c :: literal, rfl, Printable.cons_iff.mpr ⟨hcontrol, hliteral⟩⟩
  | @short letter c s text rest hshort _ ih =>
    obtain ⟨literal, rfl, hliteral⟩ := ih
    have hletters : ∀ p ∈ shortEscapes, Json.Printable ['\\', p.1] := by decide
    exact ⟨['\\', letter] ++ literal, rfl, Printable.append_iff.mpr ⟨hletters _ hshort, hliteral⟩⟩
  | @unicode d₁ d₂ d₃ d₄ c s text rest hword _ ih =>
    obtain ⟨literal, rfl, hliteral⟩ := ih
    refine ⟨['\\', 'u'] ++ [d₁, d₂, d₃, d₄] ++ literal, rfl, ?_⟩
    simp only [Printable.append_iff]
    exact ⟨⟨hmark, printable_of_hexWord? hword⟩, hliteral⟩
  | @pair d₁ d₂ d₃ d₄ e₁ e₂ e₃ e₄ c high low s text rest hhigh hlow _ _ _ _ ih =>
    obtain ⟨literal, rfl, hliteral⟩ := ih
    refine ⟨['\\', 'u'] ++ [d₁, d₂, d₃, d₄] ++ ['\\', 'u'] ++ [e₁, e₂, e₃, e₄] ++ literal, rfl, ?_⟩
    simp only [Printable.append_iff]
    exact ⟨⟨⟨⟨hmark, printable_of_hexWord? hhigh⟩, hmark⟩, printable_of_hexWord? hlow⟩, hliteral⟩

/-- A plain text has no control characters. -/
theorem IsPlain.printable {text : String} (h : IsPlain text) : Json.Printable text.toList :=
  fun c hc => (h c hc).2.2

theorem IsLiteral.printable {text s : String} (h : IsLiteral text s) :
    Json.Printable text.toList := by
  obtain ⟨literal, heq, hliteral⟩ := StringBody.printable h
  rw [List.append_nil] at heq
  rw [← heq, Printable.append_iff] at hliteral
  exact hliteral.1

theorem Cell.Spells.printable {cell : Cell} {w : Json} (h : cell.Spells w) :
    Json.Printable cell.text.toList := by
  cases cell with
  | json v => exact Proper.printable v h.1
  | spliced t =>
    obtain ⟨s, -, hs⟩ := h
    rw [Cell.text, String.toList_append, String.toList_append, Printable.append_iff,
      Printable.append_iff]
    exact ⟨⟨by decide, hs.printable⟩, by decide⟩

theorem printable_blank (flag : Bool) : Json.Printable (blank flag) := by
  cases flag <;> decide

/-- **A frame has no control characters.** -/
theorem Frame.printable {f : Frame} {entries : List (String × Json)}
    (h : List.Forall₂ Member.Spells f.members entries) : Json.Printable f.text.toList := by
  have hmembers : ∀ t ∈ f.members.map Member.text, Json.Printable t.toList := by
    intro t ht
    obtain ⟨m, hm, rfl⟩ := List.mem_map.mp ht
    obtain ⟨entry, -, hspells⟩ := exists_of_forall₂_left h hm
    simp only [Member.toList_text, Printable.append_iff, Printable.cons_iff]
    exact ⟨printable_blank _, by decide, hspells.plain.printable, by decide, by decide,
      printable_blank _, hspells.value.printable⟩
  rw [Frame.text, String.toList_append, String.toList_append, Printable.append_iff,
    Printable.append_iff]
  exact ⟨⟨by decide, .joinCommas hmembers⟩, by decide⟩

end MarketFeed
