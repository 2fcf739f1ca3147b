import MarketFeed.Text.Split
import Mathlib.Data.List.Basic

namespace MarketFeed.Text

/-!
# Cutting a text at a character

* `splitChars_append` — a separator parts the pieces before it from those behind it.
* `length_splitChars` — there is one piece more than there are separators.
* `getLast?_splitChars_eq_some_iff` — the last piece of several is what stands behind the last
  separator.
* `cut?`, `cut?_eq_some` — a text cut in two at the first separator.
-/

variable {sep : Char} {a b cs : List Char}

/-! ### Pieces -/

/-- A text without the separator is one piece. -/
theorem splitChars_of_not_mem (h : sep ∉ cs) : splitChars sep cs = [cs] := by
  induction cs with
  | nil => rfl
  | cons c cs ih =>
    rw [List.mem_cons, not_or] at h
    rw [splitChars, if_neg (Ne.symm h.1), ih h.2]

/-- The pieces on the two sides of a separator. -/
theorem splitChars_append (a b : List Char) :
    splitChars sep (a ++ sep :: b) = splitChars sep a ++ splitChars sep b := by
  induction a with
  | nil =>
    rw [List.nil_append, splitChars_nil, splitChars, if_pos rfl]
    rfl
  | cons c a ih =>
    rw [List.cons_append, splitChars, splitChars, ih]
    by_cases hc : c = sep
    · rw [if_pos hc, if_pos hc]
      rfl
    · -- the first piece is there already, and takes one character more
      obtain ⟨piece, pieces, hpieces⟩ := List.exists_cons_of_ne_nil (splitChars_ne_nil sep a)
      rw [if_neg hc, if_neg hc, hpieces]
      rfl

/-- There is one piece more than there are separators. -/
theorem length_splitChars (sep : Char) (cs : List Char) :
    (splitChars sep cs).length = cs.count sep + 1 := by
  induction cs with
  | nil => rfl
  | cons c cs ih =>
    rw [splitChars]
    by_cases hc : c = sep
    · rw [if_pos hc, hc, List.count_cons_self, List.length_cons, ih]
    · obtain ⟨piece, pieces, hpieces⟩ := List.exists_cons_of_ne_nil (splitChars_ne_nil sep cs)
      rw [if_neg hc, List.count_cons_of_ne hc, ← ih, hpieces]
      rfl

/-- A separator that occurs has a last occurrence. -/
theorem exists_last_of_mem (h : sep ∈ cs) : ∃ a b, cs = a ++ sep :: b ∧ sep ∉ b := by
  -- the last occurrence is the first one from behind
  obtain ⟨b, a, hcs, hb⟩ := List.eq_append_cons_of_mem (List.mem_reverse.mpr h)
  refine ⟨a.reverse, b.reverse, ?_, fun hmem => hb (List.mem_reverse.mp hmem)⟩
  rw [← List.reverse_reverse cs, hcs]
  simp

/-- The last piece of several is a word just when the text ends in a separator and the word. -/
theorem getLast?_splitChars_eq_some_iff {word : List Char} (hword : sep ∉ word) :
    (2 ≤ (splitChars sep cs).length ∧ (splitChars sep cs).getLast? = some word) ↔
      sep :: word <:+ cs := by
  constructor
  · rintro ⟨hlength, hlast⟩
    -- of several pieces the last one follows a separator
    have hmem : sep ∈ cs := by
      rw [length_splitChars] at hlength
      exact List.count_pos_iff.mp (by omega)
    obtain ⟨a, b, rfl, hb⟩ := exists_last_of_mem hmem
    rw [splitChars_append, splitChars_of_not_mem hb, List.getLast?_concat] at hlast
    obtain rfl := Option.some.inj hlast
    exact List.suffix_append a _
  · rintro ⟨a, rfl⟩
    rw [splitChars_append, splitChars_of_not_mem hword, List.length_append, List.getLast?_concat]
    have hpos := List.length_pos_iff.mpr (splitChars_ne_nil sep a)
    exact ⟨Nat.succ_le_succ hpos, rfl⟩

/-! ### Two parts -/

/-- What stands before the first separator, and what stands behind it. -/
def cutChars? (sep : Char) : List Char → Option (List Char × List Char)
  | [] => none
  | c :: cs => if c = sep then some ([], cs) else (cutChars? sep cs).map fun p => (c :: p.1, p.2)

/-- The text before the first separator, and the text behind it. -/
def cut? (sep : Char) (text : String) : Option (String × String) :=
  (cutChars? sep text.toList).map fun p => (String.ofList p.1, String.ofList p.2)

/-- A text is cut at its first separator. -/
theorem cutChars?_append (h : sep ∉ a) (b : List Char) :
    cutChars? sep (a ++ sep :: b) = some (a, b) := by
  induction a with
  | nil => rw [List.nil_append, cutChars?, if_pos rfl]
  | cons c a ih =>
    rw [List.mem_cons, not_or] at h
    rw [List.cons_append, cutChars?, if_neg (Ne.symm h.1), ih h.2]
    rfl

/-- The cut is made at the first separator, whatever stands behind it. -/
theorem cut?_eq_some {text front back : String} (h : sep ∉ front.toList)
    (htext : text.toList = front.toList ++ sep :: back.toList) :
    cut? sep text = some (front, back) := by
  rw [cut?, htext, cutChars?_append h, Option.map_some, String.ofList_toList, String.ofList_toList]

end MarketFeed.Text
