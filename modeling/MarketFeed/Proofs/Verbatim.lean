import Mathlib.Data.List.Nodup
import MarketFeed.Proofs.Splice

namespace MarketFeed

/-!
# Texts that arrive as they were given

A text that is legal between quotes may still be a literal for another text.  An escape is longer
than the character it stands for, so only a plain text is a literal for itself.

* `StringBody.length_add_lt`, `StringBody.plain_of_length` — a literal is longer than what it stands
  for, by its closing quote alone only if it has no escapes.
* `isLiteral_self_iff` — a text is a literal for itself just when it is plain.
* `Layout` — the names of a command's members, and the one among them that carries a text.
* `Layout.IsReadIn` — a command is read as an object of this layout, with the text as it was given.
* `Frame.HasLayout.isReadIn_iff` — a frame is read so just when the text is plain.
-/

open Json

/-! ### Literals that stand for themselves -/

section Literals

variable {s text rest : List Char}

/-- A literal is longer than what it stands for. -/
theorem Json.StringBody.length_add_lt (h : StringBody s text rest) :
    s.length + rest.length < text.length := by
  induction h with
  | close => simp
  | plain _ _ _ _ ih | short _ _ ih | unicode _ _ ih | pair _ _ _ _ _ _ ih =>
    simp only [List.length_cons]
    omega

/-- A literal that is longer by the closing quote alone has no escapes. -/
theorem Json.StringBody.plain_of_length (h : StringBody s text rest)
    (hlength : text.length = s.length + rest.length + 1) :
    ∀ c ∈ s, c ≠ '"' ∧ c ≠ '\\' ∧ 0x20 ≤ c.toNat := by
  induction h with
  | close => exact List.forall_mem_nil _
  | plain hquote hslash hcontrol _ ih =>
    rw [List.forall_mem_cons]
    refine ⟨⟨hquote, hslash, hcontrol⟩, ih ?_⟩
    simp only [List.length_cons] at hlength
    omega
  | short _ h | unicode _ h | pair _ _ _ _ _ h =>
    -- an escape takes at least two characters for one
    have hlt := h.length_add_lt
    simp only [List.length_cons] at hlength
    omega

end Literals

/-- **A text is a literal for itself just when it is plain.** -/
theorem isLiteral_self_iff {text : String} : IsLiteral text text ↔ IsPlain text := by
  refine ⟨fun h => ?_, IsPlain.isLiteral⟩
  apply StringBody.plain_of_length h
  simp

/-- A plain text is a literal for itself alone. -/
theorem IsPlain.eq_of_isLiteral {text s : String} (h : IsPlain text) (hs : IsLiteral text s) :
    s = text := by
  have hself : IsLiteral text text := h.isLiteral
  exact String.toList_inj.mp (StringBody.unique hself hs).1

/-- A text is plain if its parts are. -/
theorem isPlain_append_iff {a b : String} : IsPlain (a ++ b) ↔ IsPlain a ∧ IsPlain b := by
  simp only [IsPlain, String.toList_append, List.forall_mem_append]

/-! ### Layouts -/

/-- How a command carries a text. -/
structure Layout where
  /-- The names of the members, in order. -/
  names : List String
  /-- The name of the member that carries the text. -/
  carrier : String
  /-- What is set between the quotes of that member. -/
  text : String
  deriving DecidableEq

/-- The command is one JSON object with these names and no others, in order, in which the text is
    what was set between the quotes. -/
def Layout.IsReadIn (l : Layout) (command : String) : Prop :=
  ∃ entries, Document (.object entries) command.toList ∧ entries.map Prod.fst = l.names ∧
    (l.carrier, .string l.text) ∈ entries

/-- The frame has the names of the layout, each once, and sets the text between quotes. -/
structure Frame.HasLayout (f : Frame) (l : Layout) : Prop where
  names : f.names = l.names
  nodup : l.names.Nodup
  carrier : ∃ m ∈ f.members, m.name = l.carrier ∧ m.value = .spliced l.text

variable {f : Frame} {l : Layout}

/-- A frame sets one text alone between quotes. -/
theorem Frame.Splices.eq_of_spliced {text text' : String} (h : f.Splices text) {m : Member}
    (hm : m ∈ f.members) (hvalue : m.value = .spliced text') : text = text' := by
  obtain ⟨before, p, after, hmembers, -, hp, hbefore, hafter⟩ := h
  have hfixed : ¬ m.IsFixed := by
    rintro ⟨-, v, -, hv⟩
    rw [hvalue] at hv
    cases hv
  rw [hmembers] at hm
  rcases List.mem_append.mp hm with hm | hm
  · exact absurd (hbefore m hm) hfixed
  · rcases List.mem_cons.mp hm with rfl | hm
    · rw [hp] at hvalue
      exact Cell.spliced.inj hvalue
    · exact absurd (hafter m hm) hfixed

/-- What the members of a frame stand for holds the text in its place. -/
theorem Frame.HasLayout.exists_literal (h : f.HasLayout l) {entries : List (String × Json)}
    (hentries : List.Forall₂ Member.Spells f.members entries) :
    ∃ s, (l.carrier, .string s) ∈ entries ∧ IsLiteral l.text s := by
  obtain ⟨m, hm, hname, hvalue⟩ := h.carrier
  obtain ⟨⟨name, w⟩, hentry, hspells⟩ := exists_of_forall₂_left hentries hm
  have hcell := hspells.value
  rw [hvalue] at hcell
  obtain ⟨s, hw, hs⟩ := hcell
  have hname' : name = l.carrier := hspells.name.trans hname
  exact ⟨s, hname' ▸ hw ▸ hentry, hs⟩

/-- **A frame is read as it was meant just when its text is plain.** -/
theorem Frame.HasLayout.isReadIn_iff (h : f.HasLayout l) (hsplices : f.Splices l.text) :
    l.IsReadIn f.text ↔ IsPlain l.text := by
  constructor
  · rintro ⟨entries, hdocument, hnames, hmem⟩
    -- the names alone show that the text is legal, so the frame stands for something
    have hintact : f.IsIntact := ⟨entries, hdocument, hnames.trans h.names.symm⟩
    obtain ⟨entries', hspells⟩ := hsplices.exists_spells (hsplices.isLegal hintact)
    obtain rfl : entries' = entries := Json.object.inj (hdocument.unique (Frame.document hspells))
    obtain ⟨s, hs, hliteral⟩ := h.exists_literal hspells
    -- no name comes twice, so the text that is read is the one the literal stands for
    have hnodup : (entries'.map Prod.fst).Nodup := hnames ▸ h.nodup
    have hentry := List.inj_on_of_nodup_map hnodup hmem hs rfl
    obtain rfl : l.text = s := Json.string.inj (Prod.ext_iff.mp hentry).2
    exact isLiteral_self_iff.mp hliteral
  · intro hplain
    obtain ⟨entries, hspells⟩ := hsplices.exists_spells hplain.isLegal
    obtain ⟨s, hs, hliteral⟩ := h.exists_literal hspells
    obtain rfl := hplain.eq_of_isLiteral hliteral
    exact ⟨entries, Frame.document hspells, (names_of_spells hspells).trans h.names, hs⟩

end MarketFeed
