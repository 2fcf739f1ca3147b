import MarketFeed.Proofs.Json.Grammar

namespace MarketFeed.Json

/-!
# Compact texts are JSON

What `compact` writes is spelled as the grammar has it, so nothing is lost in writing.

* `StringBody.of_escape`, `StringBody.of_quote` — one escaped character, and a whole literal.
* `Proper` — a value whose number literals are number literals.
* `Proper.spelled` — the compact text of a proper value spells the value.
* `Printable`, `Proper.printable` — no control character stands in it as it is.
-/

variable {s text rest : List Char}

/-! ### String literals -/

/-- A hexadecimal digit has the value that it was written for. -/
theorem hexValue?_hexDigit {n : Nat} (h : n < 16) : Text.hexValue? (hexDigit n) = some n := by
  have hall : ∀ k : Fin 16, Text.hexValue? (hexDigit k) = some k.val := by decide
  exact hall ⟨n, h⟩

/-- The escape of a control character has the character's code. -/
theorem hexWord?_control {n : Nat} (h : n < 0x100) :
    hexWord? '0' '0' (hexDigit (n / 16)) (hexDigit (n % 16)) = some n := by
  have hzero : Text.hexValue? '0' = some 0 := by decide
  have hhigh := hexValue?_hexDigit (n := n / 16) (by omega)
  have hlow := hexValue?_hexDigit (n := n % 16) (by omega)
  simp only [hexWord?, hzero, hhigh, hlow, bind, Option.bind, pure, Option.some.injEq]
  omega

/-- The three ways in which a character is written. -/
theorem escape_cases (c : Char) :
    (∃ letter, (letter, c) ∈ shortEscapes ∧ escape c = ['\\', letter]) ∨
    (c.toNat < 0x20 ∧ escape c =
      ['\\', 'u', '0', '0', hexDigit (c.toNat / 16), hexDigit (c.toNat % 16)]) ∨
    (c ≠ '"' ∧ c ≠ '\\' ∧ 0x20 ≤ c.toNat ∧ escape c = [c]) := by
  -- all short escapes but the slash are used, which needs none
  by_cases hshort : c ∈ ['"', '\\', '\x08', '\t', '\n', '\x0c', '\r']
  · left
    simp only [List.mem_cons, List.not_mem_nil, or_false] at hshort
    rcases hshort with rfl | rfl | rfl | rfl | rfl | rfl | rfl
    · exact ⟨'"', by decide, rfl⟩
    · exact ⟨'\\', by decide, rfl⟩
    · exact ⟨'b', by decide, rfl⟩
    · exact ⟨'t', by decide, rfl⟩
    · exact ⟨'n', by decide, rfl⟩
    · exact ⟨'f', by decide, rfl⟩
    · exact ⟨'r', by decide, rfl⟩
  · right
    simp only [List.mem_cons, List.not_mem_nil, or_false, not_or] at hshort
    obtain ⟨hquote, hslash, hb, ht, hn, hf, hr⟩ := hshort
    rw [escape, if_neg hquote, if_neg hslash, if_neg hb, if_neg ht, if_neg hn, if_neg hf, if_neg hr]
    by_cases hcontrol : c.toNat < 0x20
    · exact .inl ⟨hcontrol, if_pos hcontrol⟩
    · exact .inr ⟨hquote, hslash, Nat.not_lt.mp hcontrol, if_neg hcontrol⟩

/-- An escaped character spells the character. -/
theorem StringBody.of_escape (c : Char) (h : StringBody s text rest) :
    StringBody (c :: s) (escape c ++ text) rest := by
  rcases escape_cases c with ⟨letter, hshort, hc⟩ | ⟨hcontrol, hc⟩ | ⟨hquote, hslash, hcontrol, hc⟩
  · rw [hc]
    exact .short hshort h
  · rw [hc]
    exact .unicode (hexWord?_control (by omega)) h
  · rw [hc]
    exact .plain hquote hslash hcontrol h

/-- A quoted text spells the text. -/
theorem StringBody.of_quote (s rest : List Char) :
    StringBody s (s.flatMap escape ++ '"' :: rest) rest := by
  induction s with
  | nil => exact .close
  | cons c s ih =>
    rw [List.flatMap_cons, List.append_assoc]
    exact ih.of_escape c

/-! ### Proper values -/

mutual

/-- All numbers in the value are written as numbers. -/
def Proper : Json → Prop
  | .null | .bool _ | .string _ => True
  | .number literal => IsNumber literal.toList
  | .array items => ProperItems items
  | .object members => ProperMembers members

/-- All numbers in the items are written as numbers. -/
def ProperItems : List Json → Prop
  | [] => True
  | v :: vs => Proper v ∧ ProperItems vs

/-- All numbers in the members are written as numbers. -/
def ProperMembers : List (String × Json) → Prop
  | [] => True
  | (_, v) :: ms => Proper v ∧ ProperMembers ms

end

/-- The items of a list are proper one by one. -/
theorem properItems_iff {vs : List Json} : ProperItems vs ↔ ∀ v ∈ vs, v.Proper := by
  induction vs with
  | nil => simp [ProperItems]
  | cons v vs ih => simp [ProperItems, ih]

/-! ### Writing -/

/-- Texts with a comma in front of each. -/
def afterCommas (ts : List String) : List Char := ts.flatMap fun t => ',' :: t.toList

/-- Texts with commas between them: the first one, and the others behind commas. -/
theorem toList_joinCommas_cons (t : String) (ts : List String) :
    (joinCommas (t :: ts)).toList = t.toList ++ afterCommas ts := by
  induction ts generalizing t with
  | nil => simp [afterCommas]
  | cons u us ih =>
    rw [joinCommas_cons_cons, String.toList_append, ih]
    simp [afterCommas]

/-- The characters of a list. -/
theorem toList_compact_array (items : List Json) :
    (compact (.array items)).toList = '[' :: ((joinCommas (compactItems items)).toList ++ [']']) := by
  simp [compact]

theorem toList_compact_object (members : List (String × Json)) :
    (compact (.object members)).toList
      = '{' :: ((joinCommas (compactMembers members)).toList ++ ['}']) := by
  simp [compact]

/-- The text of a member. -/
theorem toList_member (name : String) (v : Json) :
    (quote name ++ ":" ++ compact v).toList = (quote name).toList ++ ':' :: v.compact.toList := by
  simp

/-- A quoted name, a colon and a value spell a member. -/
theorem MemberSpelled.of_quote (name : String) {v : Json} (h : Spelled v text rest) :
    MemberSpelled name v ((quote name).toList ++ ':' :: text) rest := by
  have hname := StringBody.of_quote name.toList (':' :: text)
  rw [toList_quote, quoteChars, List.cons_append, List.cons_append, List.append_assoc]
  exact .mk .none hname .none .none h

mutual

/-- **The compact text of a proper value spells the value.** -/
theorem Proper.spelled : ∀ (v : Json), v.Proper → ∀ rest : List Char,
    Spelled v (v.compact.toList ++ rest) rest
  | .null, _, _ => .null
  | .bool true, _, _ => .boolTrue
  | .bool false, _, _ => .boolFalse
  | .number _, h, _ => .number h
  | .string s, _, rest => by
    have hs := StringBody.of_quote s.toList rest
    rw [compact, toList_quote, quoteChars, List.cons_append, List.cons_append, List.append_assoc]
    exact .string hs
  -- the first item goes without a comma, the others are spelled behind theirs
  | .array [], _, _ => .array (.done .none)
  | .array (v :: vs), h, rest => by
    have hv := Proper.spelled v h.1 (afterCommas (compactItems vs) ++ ']' :: rest)
    have hvs := ProperItems.spelled vs h.2 rest
    rw [toList_compact_array, compactItems, toList_joinCommas_cons, List.cons_append,
      List.append_assoc, List.append_assoc, List.singleton_append]
    exact .array (.item .absent .none hv hvs)
  | .object [], _, _ => .object (.done .none)
  | .object ((name, v) :: ms), h, rest => by
    have hv := Proper.spelled v h.1 (afterCommas (compactMembers ms) ++ '}' :: rest)
    have hms := ProperMembers.spelled ms h.2 rest
    rw [toList_compact_object, compactMembers, toList_joinCommas_cons, toList_member,
      List.cons_append, List.append_assoc, List.append_assoc, List.append_assoc,
      List.singleton_append, List.cons_append]
    exact .object (.member .absent (.of_quote name hv) hms)

/-- The compact texts of proper items, with their commas and the bracket. -/
theorem ProperItems.spelled : ∀ (vs : List Json), ProperItems vs → ∀ rest : List Char,
    ItemsSpelled false vs (afterCommas (compactItems vs) ++ ']' :: rest) rest
  | [], _, _ => .done .none
  | v :: vs, h, rest => by
    have hv := Proper.spelled v h.1 (afterCommas (compactItems vs) ++ ']' :: rest)
    have hvs := ProperItems.spelled vs h.2 rest
    rw [compactItems, afterCommas, List.flatMap_cons, List.append_assoc, List.cons_append]
    exact .item (.present .none) .none hv hvs

/-- The compact texts of proper members, with their commas and the bracket. -/
theorem ProperMembers.spelled : ∀ (ms : List (String × Json)), ProperMembers ms →
    ∀ rest : List Char,
    MembersSpelled false ms (afterCommas (compactMembers ms) ++ '}' :: rest) rest
  | [], _, _ => .done .none
  | (name, v) :: ms, h, rest => by
    have hv := Proper.spelled v h.1 (afterCommas (compactMembers ms) ++ '}' :: rest)
    have hms := ProperMembers.spelled ms h.2 rest
    rw [compactMembers, afterCommas, List.flatMap_cons, toList_member, List.append_assoc,
      List.cons_append, List.append_assoc, List.cons_append]
    exact .member (.present .none) (.of_quote name hv) hms

end

/-- The compact text of a proper value is a document of its own. -/
theorem Proper.document {v : Json} (h : v.Proper) : Document v v.compact.toList := by
  have hspelled := Proper.spelled v h []
  rw [List.append_nil] at hspelled
  exact ⟨_, [], .none, hspelled, .none⟩

/-! ### Control characters -/

/-- No control character stands in the text. -/
def Printable (text : List Char) : Prop := ∀ c ∈ text, 0x20 ≤ c.toNat

instance (text : List Char) : Decidable (Printable text) :=
  List.decidableBAll (fun c : Char => 0x20 ≤ c.toNat) text

/-- A text is printable if its parts are. -/
@[simp] theorem Printable.append_iff {a b : List Char} :
    Printable (a ++ b) ↔ Printable a ∧ Printable b := by
  simp only [Printable, List.mem_append]
  constructor
  · exact fun h => ⟨fun c hc => h c (.inl hc), fun c hc => h c (.inr hc)⟩
  · rintro ⟨ha, hb⟩ c (hc | hc)
    · exact ha c hc
    · exact hb c hc

/-- A text is printable if its characters are. -/
@[simp] theorem Printable.cons_iff {c : Char} {text : List Char} :
    Printable (c :: text) ↔ 0x20 ≤ c.toNat ∧ Printable text := by
  simp [Printable]

/-- Commas are printable. -/
theorem Printable.joinCommas {ts : List String} (h : ∀ t ∈ ts, Printable t.toList) :
    Printable (joinCommas ts).toList := by
  cases ts with
  | nil => simp [Printable]
  | cons t ts =>
    rw [toList_joinCommas_cons, Printable.append_iff]
    refine ⟨h t List.mem_cons_self, ?_⟩
    intro c hc
    obtain ⟨u, hu, hc⟩ := List.mem_flatMap.mp hc
    rcases List.mem_cons.mp hc with rfl | hc
    · decide
    · exact h u (List.mem_cons_of_mem t hu) c hc

theorem printable_hexDigit {n : Nat} (h : n < 16) : 0x20 ≤ (hexDigit n).toNat := by
  have hall : ∀ k : Fin 16, 0x20 ≤ (hexDigit k).toNat := by decide
  exact hall ⟨n, h⟩

/-- A character is printable once it is escaped. -/
theorem printable_escape (c : Char) : Printable (escape c) := by
  rcases escape_cases c with ⟨letter, hshort, hc⟩ | ⟨hcontrol, hc⟩ | ⟨-, -, hcontrol, hc⟩
  · have hletters : ∀ p ∈ shortEscapes, Printable ['\\', p.1] := by decide
    rw [hc]
    exact hletters _ hshort
  · have hhigh := printable_hexDigit (n := c.toNat / 16) (by omega)
    have hlow := printable_hexDigit (n := c.toNat % 16) (by omega)
    simp only [hc, Printable.cons_iff, hhigh, hlow]
    decide
  · rw [hc, Printable.cons_iff]
    exact ⟨hcontrol, by decide⟩

/-- So a string literal is printable, whatever is in it. -/
theorem printable_quote (s : String) : Printable (quote s).toList := by
  rw [toList_quote, quoteChars, Printable.append_iff, Printable.cons_iff]
  refine ⟨⟨by decide, ?_⟩, by decide⟩
  intro d hd
  obtain ⟨c, -, hd⟩ := List.mem_flatMap.mp hd
  exact printable_escape c d hd

theorem printable_of_isDigit {c : Char} (h : c.isDigit) : 0x20 ≤ c.toNat := by
  simp only [Char.isDigit, Bool.and_eq_true, decide_eq_true_eq] at h
  have hle : 0x30 ≤ c.toNat := h.1
  omega

theorem IsNumber.printable (h : IsNumber text) : Printable text := by
  have hmarks : Printable ['-', '+', '.', 'e', 'E'] := by decide
  exact h.forall_mem (fun _ => printable_of_isDigit) hmarks

mutual

/-- **The compact text of a proper value has no control characters.** -/
theorem Proper.printable : ∀ (v : Json), v.Proper → Printable v.compact.toList
  | .null, _ => by decide
  | .bool true, _ => by decide
  | .bool false, _ => by decide
  | .number _, h => IsNumber.printable h
  | .string s, _ => printable_quote s
  | .array items, h => by
    rw [toList_compact_array, Printable.cons_iff, Printable.append_iff]
    exact ⟨by decide, .joinCommas (ProperItems.printable items h), by decide⟩
  | .object members, h => by
    rw [toList_compact_object, Printable.cons_iff, Printable.append_iff]
    exact ⟨by decide, .joinCommas (ProperMembers.printable members h), by decide⟩

theorem ProperItems.printable : ∀ (vs : List Json), ProperItems vs →
    ∀ t ∈ compactItems vs, Printable t.toList
  | v :: vs, h, t, ht => by
    rcases List.mem_cons.mp ht with rfl | ht
    · exact Proper.printable v h.1
    · exact ProperItems.printable vs h.2 t ht

theorem ProperMembers.printable : ∀ (ms : List (String × Json)), ProperMembers ms →
    ∀ t ∈ compactMembers ms, Printable t.toList
  | (name, v) :: ms, h, t, ht => by
    rcases List.mem_cons.mp ht with rfl | ht
    · have hv := Proper.printable v h.1
      rw [toList_member, Printable.append_iff, Printable.cons_iff]
      exact ⟨printable_quote name, by decide, hv⟩
    · exact ProperMembers.printable ms h.2 t ht

end

end MarketFeed.Json
