import MarketFeed.Proofs.Json.Read
import MarketFeed.Proofs.Json.Write
import MarketFeed.Text.Blank

namespace MarketFeed.Json

/-!
# Compact texts

What is written compactly is read as it was, and there is nothing in it that need not be.

* `compact_inj` — the text tells the value.
* `outside` — the characters of a text outside its string literals.
* `StringBody.outside_eq` — a literal is passed over, however it is written.
* `IsTight`, `Proper.isTight` — no blanks stand between the tokens of a compact text.
* `compact_array_append` — the text of an array of two parts, by the texts of the parts.
* `compact_ofStrings` — all this for arrays of strings.
-/

variable {s text rest : List Char}

/-- Proper values with one compact text are one value. -/
theorem compact_inj {a b : Json} (ha : a.Proper) (hb : b.Proper) (h : a.compact = b.compact) :
    a = b := by
  have hdocument : Document b a.compact.toList := h ▸ hb.document
  exact hdocument.unique ha.document

/-! ### Outside string literals -/

/-- Where a character stands: between literals, in a literal, or in a literal behind a backslash. -/
inductive Region
  | outside
  | inside
  | escaped

/-- The characters outside string literals, in a text that begins in some region. -/
def outsideFrom : Region → List Char → List Char
  | _, [] => []
  | .outside, c :: cs =>
    if c = '"' then outsideFrom .inside cs else c :: outsideFrom .outside cs
  | .inside, c :: cs =>
    outsideFrom (if c = '"' then .outside else if c = '\\' then .escaped else .inside) cs
  | .escaped, _ :: cs => outsideFrom .inside cs

/-- The characters of a text outside its string literals. -/
def outside (text : List Char) : List Char := outsideFrom .outside text

theorem outside_quote (cs : List Char) : outside ('"' :: cs) = outsideFrom .inside cs := rfl

/-- Inside a literal, a plain character changes nothing. -/
theorem outsideFrom_plain {c : Char} (hquote : c ≠ '"') (hslash : c ≠ '\\') (cs : List Char) :
    outsideFrom .inside (c :: cs) = outsideFrom .inside cs := by
  rw [outsideFrom, if_neg hquote, if_neg hslash]

/-- The digits of a code do not end a literal. -/
theorem outsideFrom_hexWord {d₁ d₂ d₃ d₄ : Char} {n : Nat} (h : hexWord? d₁ d₂ d₃ d₄ = some n)
    (cs : List Char) :
    outsideFrom .inside (d₁ :: d₂ :: d₃ :: d₄ :: cs) = outsideFrom .inside cs := by
  -- a literal ends at a quote or goes on at a backslash, and neither is a digit
  have hquote : Text.hexValue? '"' = none := by decide
  have hslash : Text.hexValue? '\\' = none := by decide
  have hdigit : ∀ d n, Text.hexValue? d = some n → d ≠ '"' ∧ d ≠ '\\' := by
    intro d n hd
    constructor <;> rintro rfl
    · rw [hquote] at hd
      cases hd
    · rw [hslash] at hd
      cases hd
  simp only [hexWord?, bind, Option.bind_eq_some_iff] at h
  obtain ⟨n₁, h₁, n₂, h₂, n₃, h₃, n₄, h₄, -⟩ := h
  obtain ⟨hq₁, hs₁⟩ := hdigit _ _ h₁
  obtain ⟨hq₂, hs₂⟩ := hdigit _ _ h₂
  obtain ⟨hq₃, hs₃⟩ := hdigit _ _ h₃
  obtain ⟨hq₄, hs₄⟩ := hdigit _ _ h₄
  rw [outsideFrom_plain hq₁ hs₁, outsideFrom_plain hq₂ hs₂, outsideFrom_plain hq₃ hs₃,
    outsideFrom_plain hq₄ hs₄]

/-- Nor do the four digits of an escape. -/
theorem outsideFrom_code {d₁ d₂ d₃ d₄ : Char} {n : Nat} (h : hexWord? d₁ d₂ d₃ d₄ = some n)
    (cs : List Char) :
    outsideFrom .inside ('\\' :: 'u' :: d₁ :: d₂ :: d₃ :: d₄ :: cs) = outsideFrom .inside cs :=
  outsideFrom_hexWord h cs

/-- **A string literal is passed over**, however it is written. -/
theorem StringBody.outside_eq (h : StringBody s text rest) :
    outsideFrom .inside text = outside rest := by
  -- one case for each way to write a character of a literal
  induction h with
  | close => rfl
  | plain hquote hslash _ _ ih => rw [outsideFrom_plain hquote hslash, ih]
  | short _ _ ih => exact ih
  | unicode hword _ ih => rw [outsideFrom_code hword, ih]
  | pair hhigh hlow _ _ _ _ ih => rw [outsideFrom_code hhigh, outsideFrom_code hlow, ih]

/-! ### Blanks -/

/-- No blank stands in the text outside string literals, and what follows the text is outside
    them. -/
def IsTight (text : List Char) : Prop :=
  ∃ marks, (∀ c ∈ marks, ¬ Text.isBlank c) ∧
    ∀ rest, outside (text ++ rest) = marks ++ outside rest

/-- A tight text has no blanks outside its literals. -/
theorem IsTight.not_blank (h : IsTight text) : ∀ c ∈ outside text, ¬ Text.isBlank c := by
  obtain ⟨marks, hmarks, htext⟩ := h
  have hall := htext []
  rw [List.append_nil] at hall
  rw [hall]
  simpa [outside, outsideFrom] using hmarks

/-- Tight texts one after another are tight. -/
theorem IsTight.append {a b : List Char} (ha : IsTight a) (hb : IsTight b) : IsTight (a ++ b) := by
  obtain ⟨marks, hmarks, ha⟩ := ha
  obtain ⟨marks', hmarks', hb⟩ := hb
  refine ⟨marks ++ marks', List.forall_mem_append.mpr ⟨hmarks, hmarks'⟩, fun rest => ?_⟩
  rw [List.append_assoc, ha, hb, List.append_assoc]

/-- The text has neither quotes nor blanks. -/
def AreMarks (text : List Char) : Prop := ∀ c ∈ text, c ≠ '"' ∧ ¬ Text.isBlank c

instance (text : List Char) : Decidable (AreMarks text) :=
  List.decidableBAll (fun c : Char => c ≠ '"' ∧ ¬ Text.isBlank c) text

/-- Marks are tight. -/
theorem AreMarks.isTight (h : AreMarks text) : IsTight text := by
  -- all of the text is outside, so it is its own marks
  refine ⟨text, fun c hc => (h c hc).2, fun rest => ?_⟩
  induction text with
  | nil => rfl
  | cons c cs ih =>
    rw [AreMarks, List.forall_mem_cons] at h
    rw [List.cons_append, outside, outsideFrom, if_neg h.1.1]
    exact congrArg (c :: ·) (ih h.2)

/-- A string literal is tight, whatever is in it. -/
theorem isTight_quote (s : String) : IsTight (quote s).toList := by
  -- nothing of a literal is outside of it, so it leaves no marks
  refine ⟨[], List.forall_mem_nil _, fun rest => ?_⟩
  rw [toList_quote, quoteChars, List.cons_append, List.cons_append, List.append_assoc,
    outside_quote]
  exact (StringBody.of_quote s.toList rest).outside_eq

/-- A digit is no blank. -/
theorem not_isBlank_of_isDigit {c : Char} (h : c.isDigit) : ¬ Text.isBlank c := by
  simp only [Char.isDigit, Bool.and_eq_true, decide_eq_true_eq] at h
  obtain ⟨hlow, hhigh⟩ := h
  -- the ranges of blanks leave the digits out
  have hlow' : 0x30 ≤ c.toNat := hlow
  have hhigh' : c.toNat ≤ 0x39 := hhigh
  simp [Text.isBlank, Text.blankRanges]
  omega

/-- A number is tight. -/
theorem IsNumber.isTight (h : IsNumber text) : IsTight text := by
  have hdigit : ∀ c : Char, c.isDigit → c ≠ '"' ∧ ¬ Text.isBlank c := by
    intro c hc
    refine ⟨?_, not_isBlank_of_isDigit hc⟩
    rintro rfl
    exact absurd hc (by decide)
  have hmarks : AreMarks ['-', '+', '.', 'e', 'E'] := by decide
  exact AreMarks.isTight (h.forall_mem hdigit hmarks)

theorem isTight_comma : IsTight [','] := AreMarks.isTight (by decide)

/-- Tight texts with a comma in front of each are tight. -/
theorem isTight_afterCommas {ts : List String} (h : ∀ t ∈ ts, IsTight t.toList) :
    IsTight (afterCommas ts) := by
  induction ts with
  | nil => exact AreMarks.isTight (by decide)
  | cons t ts ih =>
    rw [List.forall_mem_cons] at h
    rw [afterCommas, List.flatMap_cons]
    exact (isTight_comma.append h.1).append (ih h.2)

/-- So they are with commas between them. -/
theorem IsTight.joinCommas {ts : List String} (h : ∀ t ∈ ts, IsTight t.toList) :
    IsTight (joinCommas ts).toList := by
  cases ts with
  | nil => exact AreMarks.isTight (by decide)
  | cons t ts =>
    rw [List.forall_mem_cons] at h
    rw [toList_joinCommas_cons]
    exact h.1.append (isTight_afterCommas h.2)

mutual

/-- **No blanks stand between the tokens of a compact text.** -/
theorem Proper.isTight : ∀ (v : Json), v.Proper → IsTight v.compact.toList
  | .null, _ => AreMarks.isTight (by decide)
  | .bool true, _ => AreMarks.isTight (by decide)
  | .bool false, _ => AreMarks.isTight (by decide)
  | .number _, h => IsNumber.isTight h
  | .string s, _ => isTight_quote s
  | .array items, h => by
    have hopen : IsTight ['['] := AreMarks.isTight (by decide)
    have hclose : IsTight [']'] := AreMarks.isTight (by decide)
    rw [toList_compact_array]
    exact hopen.append ((IsTight.joinCommas (ProperItems.isTight items h)).append hclose)
  | .object members, h => by
    have hopen : IsTight ['{'] := AreMarks.isTight (by decide)
    have hclose : IsTight ['}'] := AreMarks.isTight (by decide)
    rw [toList_compact_object]
    exact hopen.append
      ((IsTight.joinCommas (ProperMembers.isTight members h)).append hclose)

theorem ProperItems.isTight : ∀ (vs : List Json), ProperItems vs →
    ∀ t ∈ compactItems vs, IsTight t.toList
  | v :: vs, h, t, ht => by
    rcases List.mem_cons.mp ht with rfl | ht
    · exact Proper.isTight v h.1
    · exact ProperItems.isTight vs h.2 t ht

theorem ProperMembers.isTight : ∀ (ms : List (String × Json)), ProperMembers ms →
    ∀ t ∈ compactMembers ms, IsTight t.toList
  | (name, v) :: ms, h, t, ht => by
    rcases List.mem_cons.mp ht with rfl | ht
    · have hcolon : IsTight [':'] := AreMarks.isTight (by decide)
      rw [toList_member]
      exact (isTight_quote name).append (hcolon.append (Proper.isTight v h.1))
    · exact ProperMembers.isTight ms h.2 t ht

end

/-! ### Arrays -/

/-- The text of an array of two parts has the last bracket of the first part and the first bracket of
    the second one replaced by a comma. -/
theorem compact_array_append {vs ws : List Json} (hvs : vs ≠ []) (hws : ws ≠ []) :
    (compact (.array (vs ++ ws))).toList =
      (compact (.array vs)).toList.dropLast ++ ',' :: (compact (.array ws)).toList.tail := by
  obtain ⟨v, vs, rfl⟩ := List.exists_cons_of_ne_nil hvs
  obtain ⟨w, ws, rfl⟩ := List.exists_cons_of_ne_nil hws
  simp only [toList_compact_array, compactItems_eq_map, List.cons_append, List.map_cons,
    List.map_append, toList_joinCommas_cons, List.tail_cons]
  -- the bracket that goes is the last character of the first text
  have hfront : ∀ body : List Char, ('[' :: (body ++ [']'])).dropLast = '[' :: body := by
    intro body
    rw [← List.cons_append, List.dropLast_concat]
  rw [hfront]
  simp [afterCommas]

/-- An array of strings has no numbers that could be written wrongly. -/
theorem proper_ofStrings (xs : List String) : (ofStrings xs).Proper := by
  refine properItems_iff.mpr fun v hv => ?_
  obtain ⟨x, -, rfl⟩ := List.mem_map.mp hv
  trivial

/-- **An array of strings is read as it was written.**  As JSON its text is the array of just these
    strings, and so the reader finds them again, and no other strings have the text.  It has no
    control characters, and no blanks outside the literals.  Two arrays are joined by joining their
    texts. -/
theorem compact_ofStrings (xs : List String) :
    readText (readList readString) (ofStrings xs).compact = .ok xs ∧
    (∀ v, Document v (ofStrings xs).compact.toList ↔ v = ofStrings xs) ∧
    Printable (ofStrings xs).compact.toList ∧
    (∀ c ∈ outside (ofStrings xs).compact.toList, ¬ Text.isBlank c) ∧
    (∀ ys, (ofStrings xs).compact = (ofStrings ys).compact ↔ xs = ys) ∧
    ∀ ys, xs ≠ [] → ys ≠ [] → (ofStrings (xs ++ ys)).compact.toList =
      (ofStrings xs).compact.toList.dropLast ++ ',' :: (ofStrings ys).compact.toList.tail := by
  have hdocument := (proper_ofStrings xs).document
  have hread : ∀ zs, readText (readList readString) (ofStrings zs).compact = .ok zs := fun zs =>
    (readText_iff reads_strings (proper_ofStrings zs).document zs).mpr rfl
  refine ⟨hread xs, fun v => ⟨fun h => hdocument.unique h, fun h => h ▸ hdocument⟩,
    Proper.printable _ (proper_ofStrings xs), (Proper.isTight _ (proper_ofStrings xs)).not_blank,
    fun ys => ⟨fun h => ?_, fun h => h ▸ rfl⟩, fun ys hxs hys => ?_⟩
  · -- a text is read as one list only
    have hxs := hread xs
    rw [h, hread ys] at hxs
    exact (Except.ok.inj hxs).symm
  · rw [ofStrings, List.map_append]
    exact compact_array_append (by simpa using hxs) (by simpa using hys)

/-- What looks like two strings in one string is not taken for two. -/
theorem compact_ofStrings_quotes :
    (ofStrings ["a\",\"b"]).compact ≠ (ofStrings ["a", "b"]).compact ∧
    readText (readList readString) (ofStrings ["a\",\"b"]).compact = .ok ["a\",\"b"] ∧
    (ofStrings (["a\",\"b"] ++ ["\n"])).compact.toList =
      "[\"a\\\",\\\"b\"".toList ++ ',' :: "\"\\n\"]".toList := by
  obtain ⟨hread, -, -, -, hinj, happend⟩ := compact_ofStrings ["a\",\"b"]
  refine ⟨fun h => ?_, hread, (happend ["\n"] (by decide) (by decide)).trans (by decide +kernel)⟩
  exact absurd ((hinj _).mp h) (by decide)

end MarketFeed.Json
