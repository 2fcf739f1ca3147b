import Mathlib.Data.List.TakeWhile
import MarketFeed.Json.Fault

namespace MarketFeed.Json.Position

/-!
# Texts that end in a position

* `Writes`, `EndsIn` — digits that write a number, and a text that ends in a position; these are told
  from the text alone, not from how it is taken apart.
* `cutBackwards?_eq_some_iff`, `cut?_eq_some_iff` — a text is cut just where a position begins.
* `restate_of_endsIn`, `restate_of_not_endsIn` — what becomes of a text as the wording of a fault.
-/

/-- The digits write the number, which fits 64 bits; there may be more of them than it needs. -/
structure Writes (ds : List Char) (n : Nat) : Prop where
  ne_nil : ds ≠ []
  isDigit : ∀ d ∈ ds, d.isDigit
  value : Text.decimalValue ds = n
  lt : n < UInt64.size

/-- The text is the front with a position behind it. -/
def EndsIn (text front : String) (p : Position) : Prop :=
  ∃ line column, Writes line p.line ∧ Writes column p.column ∧
    text.toList = front.toList ++ " at line ".toList ++ line ++ " column ".toList ++ column

/-! ### Taking a text apart -/

/-- Digits write their value if it fits. -/
theorem wordOf?_eq_some_iff {ds : List Char} (h : ∀ d ∈ ds, d.isDigit) {n : Nat} :
    wordOf? ds = some n ↔ Writes ds n := by
  unfold wordOf?
  by_cases hds : ds.isEmpty ∨ UInt64.size ≤ Text.decimalValue ds
  · rw [if_pos hds]
    simp only [reduceCtorEq, false_iff]
    intro hw
    rcases hds with hnil | hle
    · exact hw.ne_nil (List.isEmpty_iff.mp hnil)
    · exact absurd hw.lt (Nat.not_lt.mpr (hw.value ▸ hle))
  · rw [if_neg hds, Option.some.injEq]
    obtain ⟨hne, hlt⟩ := not_or.mp hds
    constructor
    · rintro rfl
      exact ⟨mt List.isEmpty_iff.mpr hne, h, rfl, Nat.not_le.mp hlt⟩
    · exact Writes.value

/-- A word is dropped just from a text that begins with it. -/
theorem dropWord?_eq_some_iff {word cs rest : List Char} :
    dropWord? word cs = some rest ↔ cs = word ++ rest := by
  unfold dropWord?
  by_cases h : word <+: cs
  · obtain ⟨suffix, rfl⟩ := h
    simp
  · rw [if_neg (by rwa [List.isPrefixOf_iff_prefix])]
    simp only [reduceCtorEq, false_iff]
    rintro rfl
    exact h (List.prefix_append word rest)

variable {ds word rest : List Char}

/-- Digits in front of a word that begins with none are taken off as a whole. -/
theorem takeWhile_isDigit (h : ∀ d ∈ ds, d.isDigit) (hword : ∃ c cs, word = c :: cs ∧ ¬ c.isDigit) :
    (ds ++ (word ++ rest)).takeWhile Char.isDigit = ds := by
  obtain ⟨c, cs, rfl, hc⟩ := hword
  rw [List.takeWhile_append_of_pos h, List.cons_append, List.takeWhile_cons_of_neg hc,
    List.append_nil]

/-- What is left is the word and what follows it. -/
theorem dropWhile_isDigit (h : ∀ d ∈ ds, d.isDigit) (hword : ∃ c cs, word = c :: cs ∧ ¬ c.isDigit) :
    (ds ++ (word ++ rest)).dropWhile Char.isDigit = word ++ rest := by
  obtain ⟨c, cs, rfl, hc⟩ := hword
  rw [List.dropWhile_append_of_pos h, List.cons_append, List.dropWhile_cons_of_neg hc]

/-- A text written backwards is cut just behind a position. -/
theorem cutBackwards?_eq_some_iff {cs front : List Char} {p : Position} :
    cutBackwards? cs = some (front, p) ↔
      ∃ line column, Writes line p.line ∧ Writes column p.column ∧
        cs = column.reverse ++ (" column ".toList.reverse ++
          (line.reverse ++ (" at line ".toList.reverse ++ front))) := by
  have hdigits : ∀ ds : List Char, ∀ d ∈ (ds.takeWhile Char.isDigit).reverse, d.isDigit :=
    fun ds d hd => List.mem_takeWhile_imp (List.mem_reverse.mp hd)
  simp only [cutBackwards?, Option.bind_eq_bind, Option.bind_eq_some_iff, dropWord?_eq_some_iff,
    wordOf?_eq_some_iff (hdigits _), Option.pure_def, Option.some.injEq, Prod.mk.injEq]
  constructor
  · rintro ⟨rest, hcolumn, front, hline, l, hl, c, hc, rfl, rfl⟩
    refine ⟨_, _, hl, hc, ?_⟩
    rw [List.reverse_reverse, List.reverse_reverse, ← hline, List.takeWhile_append_dropWhile,
      ← hcolumn, List.takeWhile_append_dropWhile]
  · rintro ⟨line, column, hl, hc, rfl⟩
    -- read backwards, each word begins with a blank, where the digits in front of it end
    have hcolumn : ∃ c cs, " column ".toList.reverse = c :: cs ∧ ¬ c.isDigit :=
      ⟨_, _, rfl, by decide⟩
    have hline : ∃ c cs, " at line ".toList.reverse = c :: cs ∧ ¬ c.isDigit :=
      ⟨_, _, rfl, by decide⟩
    have hcs : ∀ d ∈ column.reverse, d.isDigit := fun d hd => hc.isDigit d (List.mem_reverse.mp hd)
    have hls : ∀ d ∈ line.reverse, d.isDigit := fun d hd => hl.isDigit d (List.mem_reverse.mp hd)
    refine ⟨_, dropWhile_isDigit hcs hcolumn, front, dropWhile_isDigit hls hline, ?_⟩
    rw [takeWhile_isDigit hcs hcolumn, takeWhile_isDigit hls hline, List.reverse_reverse,
      List.reverse_reverse]
    exact ⟨_, hl, _, hc, rfl, rfl⟩

variable {text front : String} {p : Position}

/-- **A text is cut just in front of a position that it ends in.** -/
theorem cut?_eq_some_iff : cut? text = some (front, p) ↔ EndsIn text front p := by
  -- the front is built backwards, and turned round at the end
  have hfront : ∀ cs : List Char, String.ofList cs.reverse = front ↔ cs = front.toList.reverse := by
    intro cs
    rw [← String.toList_inj, String.toList_ofList, List.reverse_eq_iff]
  simp only [cut?, Option.map_eq_some_iff, Prod.exists, Prod.mk.injEq, hfront]
  constructor
  · rintro ⟨cs, q, hcut, rfl, rfl⟩
    obtain ⟨line, column, hl, hc, htext⟩ := cutBackwards?_eq_some_iff.mp hcut
    refine ⟨line, column, hl, hc, ?_⟩
    rw [List.reverse_eq_iff] at htext
    rw [htext]
    simp only [List.reverse_append, List.reverse_reverse]
  · rintro ⟨line, column, hl, hc, htext⟩
    refine ⟨_, p, cutBackwards?_eq_some_iff.mpr ⟨line, column, hl, hc, ?_⟩, rfl, rfl⟩
    rw [htext]
    simp only [List.reverse_append, List.append_assoc]

/-! ### Wording -/

/-- A text that ends in a position keeps it in plain digits, or loses it if its line is 0. -/
theorem restate_of_endsIn (h : EndsIn text front p) :
    restate text = if p.line = 0 then front else front ++ p.text := by
  rw [restate, cut?_eq_some_iff.mpr h]

/-- A text that ends in no position stays as it is. -/
theorem restate_of_not_endsIn (h : ∀ front p, ¬ EndsIn text front p) : restate text = text := by
  have hnone : cut? text = none := by
    apply Option.eq_none_iff_forall_ne_some.mpr
    rintro ⟨front, p⟩ hcut
    exact h front p (cut?_eq_some_iff.mp hcut)
  rw [restate, hnone]

end MarketFeed.Json.Position
