import MarketFeed.Log.Subscriber

namespace MarketFeed.Log

/-!
# What the layers of a log hold

The console and the file are given the same events, and each layer writes them in its own way.

* `Subscriber.extend`, `Subscriber.run_eq` — what a subscriber holds after some events.
* `IsStyled` — a text with sequences that set styles, and the text that it shows.
* `Layer.isStyled_entry` — an entry on the console shows what stands in the file.
* `Layer.map_lines_entry` — so it does line by line.
-/

/-! ### Events that pass -/

namespace Subscriber

/-- The subscriber after some events have passed its filter. -/
def extend (s : Subscriber) (passed : List Event) : Subscriber :=
  { s with
    events := s.events ++ passed
    console := s.console ++ passed.map Layer.console.entry
    file? := s.file?.map fun f => { f with entries := f.entries ++ passed.map Layer.file.entry } }

/-- Events that pass one after another. -/
theorem extend_extend (s : Subscriber) (xs ys : List Event) :
    (s.extend xs).extend ys = s.extend (xs ++ ys) := by
  unfold extend
  simp only [List.append_assoc, List.map_append, Option.map_map, Function.comp_def]

/-- Nothing changes where nothing passes. -/
theorem extend_nil (s : Subscriber) : s.extend [] = s := by
  obtain ⟨filter, events, console, file?⟩ := s
  cases file? with
  | none => simp [extend]
  | some f => simp [extend]

/-- An event that happens passes or does not. -/
theorem take_eq (s : Subscriber) (e : Event) :
    s.take e = s.extend (if s.filter.enabled e then [e] else []) := by
  unfold take
  by_cases he : s.filter.enabled e
  · rw [if_pos he, if_pos he]
    rfl
  · rw [if_neg he, if_neg he, extend_nil]

/-- **After some events, all layers hold those that pass the filter.** -/
theorem run_eq (s : Subscriber) (events : List Event) :
    s.run events = s.extend (events.filter s.filter.enabled) := by
  induction events generalizing s with
  | nil => exact (extend_nil s).symm
  | cons e events ih =>
    have hrest := ih (s.take e)
    -- an event does not change the filter that the later ones pass
    have hfilter : (s.take e).filter = s.filter := by
      rw [take_eq]
      rfl
    rw [hfilter, take_eq, extend_extend] at hrest
    rw [run, List.foldl_cons, ← run, take_eq, hrest, List.filter_cons]
    split <;> rfl

end Subscriber

/-! ### Texts with styles -/

/-- The first text shows as the second one: it has sequences that set a style between the characters
    of the other. -/
inductive IsStyled : List Char → List Char → Prop
  | nil : IsStyled [] []
  | char {c : Char} {cs shown : List Char} (hc : c ≠ '\x1b') (h : IsStyled cs shown) :
    IsStyled (c :: cs) (c :: shown)
  | style {codes cs shown : List Char} (hend : 'm' ∉ codes) (hline : '\n' ∉ codes)
    (h : IsStyled cs shown) : IsStyled ('\x1b' :: (codes ++ 'm' :: cs)) shown

namespace IsStyled

variable {cs ds shown shown' : List Char}

/-- A text without sequences shows as it is. -/
theorem refl (h : '\x1b' ∉ cs) : IsStyled cs cs := by
  induction cs with
  | nil => exact .nil
  | cons c cs ih =>
    rw [List.mem_cons, not_or] at h
    exact .char (Ne.symm h.1) (ih h.2)

/-- Texts one after another. -/
theorem append (h : IsStyled cs shown) (h' : IsStyled ds shown') :
    IsStyled (cs ++ ds) (shown ++ shown') := by
  induction h with
  | nil => exact h'
  | char hc _ ih => exact .char hc ih
  | style hend hline _ ih =>
    rw [List.cons_append, List.append_assoc]
    exact .style hend hline ih

/-- A sequence is passed over up to its end. -/
theorem withoutStyleChars_style {codes : List Char} (hend : 'm' ∉ codes) (cs : List Char) :
    withoutStyleChars false ('\x1b' :: (codes ++ 'm' :: cs)) = withoutStyleChars false cs := by
  have hinside : withoutStyleChars true (codes ++ 'm' :: cs) = withoutStyleChars false cs := by
    induction codes with
    | nil => rfl
    | cons c codes ih =>
      rw [List.mem_cons, not_or] at hend
      have hc : (c != 'm') = true := bne_iff_ne.mpr (Ne.symm hend.1)
      rw [List.cons_append, withoutStyleChars, if_pos rfl, hc]
      exact ih hend.2
  exact hinside

/-- **What is left of a text without its styles is what it shows.** -/
theorem withoutStyleChars_eq (h : IsStyled cs shown) : withoutStyleChars false cs = shown := by
  induction h with
  | nil => rfl
  | char hc _ ih => simp [withoutStyleChars, hc, ih]
  | style hend _ _ ih => rw [withoutStyleChars_style hend, ih]

/-- A piece of a text begins with what stands before the first separator. -/
theorem splitChars_append_of_not_mem {sep : Char} (h : sep ∉ cs) {piece : List Char}
    {pieces : List (List Char)} (hds : Text.splitChars sep ds = piece :: pieces) :
    Text.splitChars sep (cs ++ ds) = (cs ++ piece) :: pieces := by
  induction cs with
  | nil => exact hds
  | cons c cs ih =>
    rw [List.mem_cons, not_or] at h
    rw [List.cons_append, Text.splitChars, if_neg (Ne.symm h.1), ih h.2]
    rfl

/-- **The lines of a text show as the lines of what it shows**, as no sequence goes over the end of a
    line. -/
theorem map_splitChars (h : IsStyled cs shown) :
    (Text.splitChars '\n' cs).map (withoutStyleChars false) = Text.splitChars '\n' shown := by
  induction h with
  | nil => rfl
  | @char c cs shown hc _ ih =>
    obtain ⟨piece, pieces, hpieces⟩ :=
      List.exists_cons_of_ne_nil (Text.splitChars_ne_nil '\n' cs)
    rw [hpieces, List.map_cons] at ih
    rw [Text.splitChars, Text.splitChars, hpieces, ← ih]
    by_cases hline : c = '\n'
    · simp [hline, withoutStyleChars]
    · simp [hline, withoutStyleChars, hc]
  | @style codes cs shown hend hline _ ih =>
    obtain ⟨piece, pieces, hpieces⟩ :=
      List.exists_cons_of_ne_nil (Text.splitChars_ne_nil '\n' cs)
    -- a sequence has no line feed in it, so it stays in front of the first line
    have hsequence : '\n' ∉ '\x1b' :: (codes ++ ['m']) := by
      simp [hline]
    have hsplit := splitChars_append_of_not_mem hsequence hpieces
    rw [List.cons_append, List.append_assoc, List.singleton_append] at hsplit
    rw [hpieces, List.map_cons] at ih
    rw [hsplit, List.map_cons, List.cons_append, List.append_assoc, List.singleton_append,
      withoutStyleChars_style hend, ih]

end IsStyled

/-! ### Entries -/

/-- A character that a terminal takes for the start of a sequence is not written to a log. -/
theorem not_mem_escapeForTerminal (c : Char) : '\x1b' ∉ escapeForTerminal c := by
  have hdigit : ∀ n : Fin 16, Json.hexDigit n ≠ '\x1b' := by decide
  -- the first cases are escapes that are written out
  unfold escapeForTerminal
  split
  · decide
  split
  · decide
  split
  · decide
  split
  · decide
  split
  · decide
  split
  · -- the two digits of a control character beyond ASCII
    rename_i hrange
    have hfirst := hdigit ⟨c.toNat / 16 % 16, Nat.mod_lt _ (by decide)⟩
    have hlast := hdigit ⟨c.toNat % 16, Nat.mod_lt _ (by decide)⟩
    have hsmall : c.toNat / 16 % 16 = c.toNat / 16 := Nat.mod_eq_of_lt (by omega)
    simp only [hsmall] at hfirst
    simp only [List.mem_append, List.mem_cons, List.not_mem_nil, or_false, not_or]
    exact ⟨⟨by decide, hfirst.symm, hlast.symm⟩, by decide⟩
  · rename_i hescape _ _ _ _ _
    rw [List.mem_singleton]
    exact fun h => hescape h.symm

/-- The target of an event can be written to a log as it is. -/
def Event.IsPlain (e : Event) : Prop := '\x1b' ∉ e.target.toList

namespace Layer

/-- A text in a style shows as itself. -/
theorem isStyled_paint {style text : String} (hend : 'm' ∉ style.toList)
    (hline : '\n' ∉ style.toList) (htext : '\x1b' ∉ text.toList) :
    IsStyled (console.paint style text).toList (file.paint style text).toList := by
  have hend' : 'm' ∉ '[' :: style.toList := by simp [hend]
  have hline' : '\n' ∉ '[' :: style.toList := by simp [hline]
  have hplain : 'm' ∉ ['[', '0'] ∧ '\n' ∉ ['[', '0'] := by decide
  -- the style is set in front of the text and taken back behind it
  have hback : IsStyled "\x1b[0m".toList [] := IsStyled.style hplain.1 hplain.2 .nil
  have hpainted := IsStyled.style hend' hline' ((IsStyled.refl htext).append hback)
  simpa [paint, console, file] using hpainted

/-- **An entry on the console shows what stands in the file.** -/
theorem isStyled_entry {e : Event} (h : e.IsPlain) :
    IsStyled (console.entry e).toList (file.entry e).toList := by
  have hlevel : IsStyled (console.paint e.level.colour e.level.column).toList
      (file.paint e.level.colour e.level.column).toList := by
    cases e.level <;> exact isStyled_paint (by decide) (by decide) (by decide)
  have htarget : IsStyled (console.dim e.target).toList (file.dim e.target).toList :=
    isStyled_paint (by decide) (by decide) h
  have hcolon : IsStyled (console.dim ":").toList (file.dim ":").toList :=
    isStyled_paint (by decide) (by decide) (by decide)
  have hmessage : '\x1b' ∉ e.message.toList.flatMap escapeForTerminal := by
    rw [List.mem_flatMap]
    rintro ⟨c, -, hc⟩
    exact not_mem_escapeForTerminal c hc
  have hblank : IsStyled " ".toList " ".toList := .refl (by decide)
  simp only [entry, String.toList_append, String.toList_ofList]
  exact ((((hlevel.append hblank).append htarget).append hcolon).append hblank).append
    (.refl hmessage)

/-- What is left of an entry on the console without its styles is the entry of the file. -/
theorem withoutStyle_entry {e : Event} (h : e.IsPlain) :
    withoutStyle (console.entry e) = file.entry e := by
  rw [withoutStyle, (isStyled_entry h).withoutStyleChars_eq, String.ofList_toList]

/-- **The lines of an entry on the console show as the lines of the file.** -/
theorem map_lines_entry {e : Event} (h : e.IsPlain) :
    (Text.lines (console.entry e)).map withoutStyle = Text.lines (file.entry e) := by
  have hpieces := congrArg (List.map String.ofList) (isStyled_entry h).map_splitChars
  simpa [Text.lines, Text.splitOn, withoutStyle, Function.comp_def] using hpieces

/-- The lines that a console shows of some events are those of a file. -/
theorem map_lines_entries {events : List Event} (h : ∀ e ∈ events, e.IsPlain) :
    ((events.map console.entry).flatMap Text.lines).map withoutStyle =
      (events.map file.entry).flatMap Text.lines := by
  induction events with
  | nil => rfl
  | cons e events ih =>
    rw [List.forall_mem_cons] at h
    simp only [List.map_cons, List.flatMap_cons, List.map_append, map_lines_entry h.1, ih h.2]

end Layer

end MarketFeed.Log
