import Mathlib.Data.List.TakeWhile
import MarketFeed.Proofs.Fallible
import MarketFeed.Text.Blank

namespace MarketFeed.Text

/-!
# Spellings of a name

A name may be written with blanks around it and in capitals.

* `AllBlank`, `exists_trimChars`, `trimChars_append` — trimming takes off the blanks at the ends and
  nothing else.
* `SameLetter`, `sameLetter_iff` — characters that differ in ASCII case at most.
* `Spells` — a text is a name, but for blanks around it and ASCII case.
* `IsWord` — a name that is written small and without blanks.
* `IsWord.spells_iff` — a text spells a word when trimming and folding make the word of it.
-/

/-! ### Trimming -/

/-- All characters are blank. -/
def AllBlank (cs : List Char) : Prop := ∀ c ∈ cs, isBlank c

/-- Blanks are blanks backwards. -/
theorem AllBlank.reverse {cs : List Char} (h : AllBlank cs) : AllBlank cs.reverse :=
  fun c hc => h c (List.mem_reverse.mp hc)

/-- The blanks in front of a text, and the rest. -/
theorem exists_dropWhile_isBlank (cs : List Char) :
    ∃ before, cs = before ++ cs.dropWhile isBlank ∧ AllBlank before :=
  ⟨cs.takeWhile isBlank, List.takeWhile_append_dropWhile.symm,
    fun _ hc => List.mem_takeWhile_imp hc⟩

/-- Only blanks are taken off. -/
theorem exists_trimChars (cs : List Char) :
    ∃ before after, cs = before ++ trimChars cs ++ after ∧ AllBlank before ∧ AllBlank after := by
  obtain ⟨before, hbefore, hblank⟩ := exists_dropWhile_isBlank cs
  obtain ⟨after, hafter, hblank'⟩ := exists_dropWhile_isBlank (cs.dropWhile isBlank).reverse
  refine ⟨before, after.reverse, ?_, hblank, hblank'.reverse⟩
  -- the second cut is made from behind
  have hcut : cs.dropWhile isBlank = trimChars cs ++ after.reverse := by
    rw [trimChars, ← List.reverse_append, ← hafter, List.reverse_reverse]
  rw [List.append_assoc, ← hcut]
  exact hbefore

/-- A text without blanks in front keeps all. -/
theorem dropWhile_eq_self_of_head {cs : List Char} (h : ∀ c ∈ cs.head?, ¬ isBlank c) :
    cs.dropWhile isBlank = cs := by
  cases cs with
  | nil => rfl
  | cons c cs => exact List.dropWhile_cons_of_neg (h c rfl)

/-- All blanks at the ends are taken off. -/
theorem trimChars_append {before word after : List Char} (hbefore : AllBlank before)
    (hafter : AllBlank after) (hword : ∀ c ∈ word, ¬ isBlank c) :
    trimChars (before ++ word ++ after) = word := by
  have hhead : ∀ c ∈ word.reverse.head?, ¬ isBlank c := fun c hc =>
    hword c (List.mem_reverse.mp (List.mem_of_mem_head? hc))
  cases word with
  | nil =>
    have hall : (before ++ after).dropWhile isBlank = [] := by
      rw [List.dropWhile_append_of_pos hbefore, List.dropWhile_eq_nil_iff]
      exact hafter
    rw [trimChars, List.append_nil, hall]
    rfl
  | cons c cs =>
    have hfront : (before ++ c :: cs ++ after).dropWhile isBlank = c :: cs ++ after := by
      rw [List.append_assoc, List.dropWhile_append_of_pos hbefore, List.cons_append]
      exact List.dropWhile_cons_of_neg (hword c List.mem_cons_self)
    rw [trimChars, hfront, List.reverse_append, List.dropWhile_append_of_pos hafter.reverse,
      dropWhile_eq_self_of_head hhead, List.reverse_reverse]

/-! ### Letters -/

/-- The characters are the same, or one is an ASCII capital and the other its small letter. -/
def SameLetter (c d : Char) : Prop :=
  c = d ∨ (c.isUpper ∧ d.toNat = c.toNat + 32) ∨ (d.isUpper ∧ c.toNat = d.toNat + 32)

/-- ASCII capitals, by their codes. -/
theorem isUpper_iff {c : Char} : c.isUpper ↔ 65 ≤ c.toNat ∧ c.toNat ≤ 90 := by
  delta Char.isUpper
  simp [UInt32.le_iff_toNat_le, ← Char.toNat_val]

/-- The code of a character written small. -/
theorem toNat_toLower (c : Char) :
    c.toLower.toNat = if c.isUpper then c.toNat + 32 else c.toNat := by
  have hrange : c.isUpper ↔ c.val ≥ 'A'.val ∧ c.val ≤ 'Z'.val := by
    delta Char.isUpper
    simp
  delta Char.toLower
  by_cases h : c.isUpper
  · have hcode := (isUpper_iff.mp h).2
    rw [if_pos h, dif_pos (hrange.mp h)]
    show (c.val + 32).toNat = c.toNat + 32
    rw [UInt32.toNat_add, Char.toNat_val]
    exact Nat.mod_eq_of_lt (by simp; omega)
  · rw [if_neg h, dif_neg (fun hc => h (hrange.mpr hc))]

/-- Two characters are the same letter when they are written small in the same way. -/
theorem sameLetter_iff (c d : Char) : SameLetter c d ↔ c.toLower = d.toLower := by
  rw [← Char.toNat_inj, toNat_toLower, toNat_toLower, SameLetter, ← Char.toNat_inj]
  simp only [isUpper_iff]
  split <;> split <;> omega

/-- A character is blank or not whatever its case. -/
theorem SameLetter.isBlank_eq {c d : Char} (h : SameLetter c d) : isBlank d = isBlank c := by
  rcases h with rfl | ⟨hc, hcode⟩ | ⟨hd, hcode⟩
  · rfl
  · rw [isUpper_iff] at hc
    simp only [isBlank, blankRanges, inRanges_cons, inRanges_nil, hcode]
    grind
  · rw [isUpper_iff] at hd
    simp only [isBlank, blankRanges, inRanges_cons, inRanges_nil, hcode]
    grind

/-- A character is ASCII or not whatever its case. -/
theorem SameLetter.lt_iff {c d : Char} (h : SameLetter c d) : c.toNat < 0x80 ↔ d.toNat < 0x80 := by
  simp only [SameLetter, isUpper_iff] at h
  rcases h with rfl | h | h
  · rfl
  · omega
  · omega

/-! ### Spellings -/

/-- The text is the name with blanks around it, but for ASCII case. -/
def Spells (text name : String) : Prop :=
  ∃ before word after : List Char, text.toList = before ++ word ++ after ∧ AllBlank before ∧
    AllBlank after ∧ List.Forall₂ SameLetter word name.toList

/-- The name is ASCII, written small and without blanks. -/
def IsWord (name : String) : Prop :=
  ∀ c ∈ name.toList, isBlank c = false ∧ c.toLower = c ∧ c.toNat < 0x80

instance (name : String) : Decidable (IsWord name) :=
  -- the letters of the name are gone through, not all characters there are
  List.decidableBAll (fun c => isBlank c = false ∧ c.toLower = c ∧ c.toNat < 0x80) name.toList

/-- The same letters are the same when written small. -/
theorem map_toLower_eq_iff {cs ds : List Char} (h : ∀ d ∈ ds, d.toLower = d) :
    cs.map Char.toLower = ds ↔ List.Forall₂ SameLetter cs ds := by
  induction cs generalizing ds with
  | nil => simp [eq_comm]
  | cons c cs ih =>
    cases ds with
    | nil => simp
    | cons d ds =>
      obtain ⟨hd, hds⟩ := List.forall_mem_cons.mp h
      rw [List.map_cons, List.cons_eq_cons, List.forall₂_cons, ih hds, sameLetter_iff, hd]

variable {text name : String}

/-- A name spells itself. -/
theorem Spells.refl (name : String) : Spells name name :=
  ⟨[], name.toList, [], by simp, by simp [AllBlank], by simp [AllBlank],
    List.forall₂_same.mpr fun _ _ => .inl rfl⟩

/-- A text spells a word when trimming and folding make the word of it. -/
theorem IsWord.spells_iff (h : IsWord name) :
    Spells text name ↔ foldCase (trim text) = name := by
  rw [← String.toList_inj, toList_foldCase, toList_trim,
    map_toLower_eq_iff fun d hd => (h d hd).2.1]
  constructor
  · rintro ⟨before, word, after, htext, hbefore, hafter, hword⟩
    have hclear : ∀ c ∈ word, ¬ isBlank c := by
      intro c hc
      obtain ⟨d, hd, hcd⟩ := exists_of_forall₂_left hword hc
      rw [← hcd.isBlank_eq, (h d hd).1]
      exact Bool.false_ne_true
    rwa [htext, trimChars_append hbefore hafter hclear]
  · intro hword
    obtain ⟨before, after, htext, hbefore, hafter⟩ := exists_trimChars text.toList
    exact ⟨before, _, after, htext, hbefore, hafter, hword⟩

/-- No letter of another script is read as an ASCII one. -/
theorem Spells.isBlank_or_lt (h : Spells text name) (hname : IsWord name) :
    ∀ c ∈ text.toList, isBlank c ∨ c.toNat < 0x80 := by
  obtain ⟨before, word, after, htext, hbefore, hafter, hword⟩ := h
  intro c hc
  rw [htext, List.mem_append, List.mem_append] at hc
  rcases hc with (hc | hc) | hc
  · exact .inl (hbefore c hc)
  · obtain ⟨d, hd, hcd⟩ := exists_of_forall₂_left hword hc
    exact .inr (hcd.lt_iff.mpr (hname d hd).2.2)
  · exact .inl (hafter c hc)

/-- A blank inside is never passed over. -/
theorem Spells.allBlank_of_isBlank (h : Spells text name) (hname : IsWord name)
    {front back : List Char} {c : Char} (htext : text.toList = front ++ c :: back)
    (hc : isBlank c) : AllBlank front ∨ AllBlank back := by
  obtain ⟨before, word, after, hparts, hbefore, hafter, hword⟩ := h
  rw [htext, List.append_assoc, List.append_eq_append_iff] at hparts
  -- the blank is in front of the word, in it or behind it
  rcases hparts with ⟨more, hfront, -⟩ | ⟨more, rfl, hback⟩
  · exact .inl fun d hd => hbefore d (hfront ▸ List.mem_append_left _ hd)
  refine .inr ?_
  rcases List.append_eq_append_iff.mp hback with ⟨more', -, hafter'⟩ | ⟨more', hword', hmore⟩
  · exact fun d hd => hafter d (by simp [hafter', hd])
  · -- a word has no blank, so nothing of it is left
    cases more' with
    | nil => exact fun d hd => hafter d (by rw [List.nil_append] at hmore; simp [← hmore, hd])
    | cons e more' =>
      obtain ⟨rfl, -⟩ := List.cons.inj hmore
      have hmem : c ∈ word := by simp [hword']
      obtain ⟨d, hd, hcd⟩ := exists_of_forall₂_left hword hmem
      rw [← hcd.isBlank_eq, (hname d hd).1] at hc
      cases hc

end MarketFeed.Text
