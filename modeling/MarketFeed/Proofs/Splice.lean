import MarketFeed.Proofs.Frame
import MarketFeed.Proofs.Json.Splice

namespace MarketFeed

/-!
# Frames with a text set between quotes as it is

Nothing keeps such a text from holding quotes.  A reader of the command then sees another object, or
none at all.

* `Frame.IsIntact` — what is sent is one JSON object with the members that were meant.
* `Frame.Splices` — a frame in which one text is set between quotes, among members that the format
  itself writes.
* `isTail_of_spells` — such members make no sense when they are read from inside a literal.
* `isLegal_of_membersSpelled` — in an object with as many members as were meant, the text is one
  literal.
* `Frame.Splices.isIntact_iff` — the frame is intact just when the text is legal between quotes.
-/

open Json

/-- What is sent is one JSON object with the members that were meant. -/
def Frame.IsIntact (f : Frame) : Prop :=
  ∃ entries, Document (.object entries) f.text.toList ∧ entries.map Prod.fst = f.names

/-- The text can name a member of a format: it is plain and begins with a letter. -/
def IsName (name : String) : Prop := IsPlain name ∧ name.toList.head?.any Char.isAlpha

instance (name : String) : Decidable (IsName name) :=
  inferInstanceAs (Decidable (IsPlain name ∧ name.toList.head?.any Char.isAlpha))

/-- A member that the format itself writes. -/
structure Member.IsFixed (m : Member) : Prop where
  name : IsName m.name
  value : ∃ v : Json, v.Proper ∧ m.value = .json v

/-- One text of the frame is set between quotes as it is, and the format itself writes the rest. -/
def Frame.Splices (f : Frame) (text : String) : Prop :=
  ∃ before m after, f.members = before ++ m :: after ∧ IsPlain m.name ∧ m.value = .spliced text ∧
    (∀ p ∈ before, p.IsFixed) ∧ ∀ p ∈ after, p.IsFixed

/-- Every legal text is a literal for something. -/
theorem isLegal_iff_exists_isLiteral {text : String} :
    IsLegal text.toList ↔ ∃ s, IsLiteral text s := by
  constructor
  · rintro ⟨s, hs⟩
    refine ⟨String.ofList s, ?_⟩
    rwa [IsLiteral, String.toList_ofList]
  · rintro ⟨s, hs⟩
    exact ⟨s.toList, hs⟩

/-- A plain text is a legal inside of a string literal. -/
theorem IsPlain.isLegal {text : String} (h : IsPlain text) : IsLegal text.toList :=
  isLegal_iff_exists_isLiteral.mpr ⟨text, h.isLiteral⟩

/-! ### Frames that stand for something -/

/-- Members and the entries that they spell have the same names. -/
theorem names_of_spells {members : List Member} {entries : List (String × Json)}
    (h : List.Forall₂ Member.Spells members entries) :
    entries.map Prod.fst = members.map Member.name := by
  induction h with
  | nil => rfl
  | cons hm _ ih => rw [List.map_cons, List.map_cons, hm.name, ih]

/-- A frame whose members all stand for something is intact. -/
theorem Frame.isIntact_of_spells {f : Frame} {entries : List (String × Json)}
    (h : List.Forall₂ Member.Spells f.members entries) : f.IsIntact :=
  ⟨entries, Frame.document h, names_of_spells h⟩

/-- A fixed member spells some entry. -/
theorem Member.IsFixed.exists_spells {m : Member} (h : m.IsFixed) : ∃ entry, m.Spells entry := by
  obtain ⟨v, hv, hvalue⟩ := h.value
  have hspells : m.value.Spells v := hvalue ▸ ⟨hv, rfl⟩
  exact ⟨(m.name, v), rfl, h.name.1, hspells⟩

theorem exists_spells_of_isFixed {members : List Member} (h : ∀ p ∈ members, p.IsFixed) :
    ∃ entries, List.Forall₂ Member.Spells members entries := by
  induction members with
  | nil => exact ⟨[], .nil⟩
  | cons m ms ih =>
    obtain ⟨entry, hm⟩ := (h m List.mem_cons_self).exists_spells
    obtain ⟨entries, hms⟩ := ih fun p hp => h p (List.mem_cons_of_mem m hp)
    exact ⟨entry :: entries, .cons hm hms⟩

/-! ### Members as text -/

/-- A member begins with the quote of its name. -/
theorem Member.spaces_text (m : Member) (rest : List Char) :
    Spaces (m.text.toList ++ rest) ('"' :: (m.name.toList ++ '"' :: ':' ::
      (blank m.spaceAfter ++ (m.value.text.toList ++ rest)))) := by
  rw [Member.toList_text]
  simp only [List.append_assoc, List.cons_append]
  exact .blank _ _

/-- A spliced text stands between quotes as it is. -/
theorem Cell.toList_text_spliced (text : String) (rest : List Char) :
    (Cell.spliced text).text.toList ++ rest = '"' :: (text.toList ++ '"' :: rest) := by
  simp [Cell.text]

/-- Where there is a member, an object has one. -/
theorem exists_of_membersSpelled_cons {first : Bool} {m : Member} {ms : List Member}
    {entries : List (String × Json)} {tail rest : List Char}
    (h : MembersSpelled first entries (membersText first (m :: ms) ++ tail) rest) :
    ∃ name v entries' r, entries = (name, v) :: entries' ∧
      MemberSpelled name v (m.text.toList ++ (membersText false ms ++ tail)) r ∧
      MembersSpelled false entries' r rest := by
  rw [membersText, List.append_assoc, List.append_assoc] at h
  have hcomma := Comma.lead first (m.text.toList ++ (membersText false ms ++ tail))
  cases h with
  | done hend =>
    exact (hcomma.not_end (m.spaces_text _) (by decide) hend (by decide) (by decide)
      (by decide)).elim
  | member hcomma' hmember h =>
    rw [hcomma.unique hcomma'] at hmember
    exact ⟨_, _, _, _, rfl, hmember, h⟩

/-- What follows the members of an object ends a value. -/
theorem ends_membersText (ms : List Member) (rest : List Char) :
    Ends (membersText false ms ++ '}' :: rest) := by
  cases ms with
  | nil => exact Ends.cons_iff.mpr (.inr (.inr (.inr rfl)))
  | cons m ms => exact Ends.cons_iff.mpr (.inr (.inl rfl))

/-! ### What follows the text -/

/-- Nothing goes on with a name. -/
theorem IsName.isStuck {name : String} (h : IsName name) (rest : List Char) :
    IsStuck (name.toList ++ rest) := by
  obtain ⟨-, hletter⟩ := h
  cases hname : name.toList with
  | nil => simp [hname] at hletter
  | cons d ds =>
    rw [hname] at hletter
    have hne : ∀ x : Char, x.isAlpha = false → d ≠ x := by
      rintro x hx rfl
      exact absurd hletter (by simp [hx])
    intro c r hspaces
    cases hspaces with
    | none => exact ⟨hne _ rfl, hne _ rfl, hne _ rfl, hne _ rfl⟩
    | some hspace _ =>
      rcases isSpace_iff.mp hspace with hd | hd | hd | hd <;> exact absurd hd (hne _ rfl)

/-- The end of the object alone makes no sense inside a literal. -/
theorem isTail_end : IsTail ['}'] 0 where
  body := by
    intro s r hs
    cases hs with
    | plain _ _ _ hs => cases hs
  items := by
    intro vs r hvs
    cases hvs with
    | done hend => cases (Spaces.none.unique hend (by decide) (by decide)).1
    | item hcomma _ _ _ =>
      cases hcomma with
      | present hcomma => cases (Spaces.none.unique hcomma (by decide) (by decide)).1
  colon := by
    intro r hcolon
    cases (Spaces.none.unique hcolon (by decide) (by decide)).1
  members := by
    intro ms r hms
    have hdone : MembersSpelled false [] ['}'] [] := .done .none
    obtain ⟨rfl, rfl⟩ := hdone.unique hms
    exact ⟨rfl, rfl⟩

/-- A comma, the name of the next member and its colon, and then more. -/
def nextName (space : Bool) (name : String) (more : List Char) : List Char :=
  ',' :: (blank space ++ '"' :: (name.toList ++ '"' :: ':' :: more))

section NextName

variable {space : Bool} {name : String} {more r : List Char}

/-- A literal that is still open ends at the quote in front of the name. -/
theorem IsName.isStuck_of_body {s : List Char} (h : IsName name)
    (hs : StringBody s (nextName space name more) r) : IsStuck r := by
  -- as text, the literal is a comma and perhaps a blank
  have hbody : ∃ s', StringBody s' (nextName space name more)
      (name.toList ++ '"' :: ':' :: more) := by
    cases space with
    | true =>
      exact ⟨_, .plain (by decide) (by decide) (by decide)
        (.plain (by decide) (by decide) (by decide) .close)⟩
    | false => exact ⟨_, .plain (by decide) (by decide) (by decide) .close⟩
  obtain ⟨s', hs'⟩ := hbody
  rw [(hs'.unique hs).2]
  exact h.isStuck _

/-- The name would be an item of a list, but a colon follows it. -/
theorem IsName.not_items {vs : List Json} (h : IsName name) :
    ¬ ItemsSpelled false vs (nextName space name more) r := by
  intro hvs
  have hbody := h.1.isLiteral.body (':' :: more)
  cases hvs with
  | done hend => cases (Spaces.none.unique hend (by decide) (by decide)).1
  | item hcomma hspaces hvalue hvs =>
    cases hcomma with
    | present hcomma =>
      rw [(Spaces.none.unique hcomma (by decide) (by decide)).2] at hspaces
      -- the item can only be the name
      have hstring : Spelled (.string name) _ _ := .string hbody
      rw [hstring.start_unique hvalue (.blank space _) hspaces] at hvalue
      obtain ⟨s, -, hs⟩ := hvalue.of_quote
      rw [(hbody.unique hs).2] at hvs
      exact absurd (Ends.cons_iff.mp hvs.ends) (by decide)

/-- The name of a next member is behind a comma, not behind a colon. -/
theorem not_colon_nextName : ¬ Spaces (nextName space name more) (':' :: r) := by
  intro hcolon
  cases (Spaces.none.unique hcolon (by decide) (by decide)).1

end NextName

/-- **Members of the format make no sense inside a literal.** -/
theorem isTail_of_spells {after : List Member} {entries : List (String × Json)}
    (h : List.Forall₂ Member.Spells after entries) (hnames : ∀ p ∈ after, IsName p.name) :
    IsTail (membersText false after ++ ['}']) after.length := by
  have hmembers := membersSpelled_of_spells h false []
  cases h with
  | nil => exact isTail_end
  | @cons m entry ms entries hm hms =>
    have hname := hnames m List.mem_cons_self
    have htail : membersText false (m :: ms) ++ ['}'] = nextName m.spaceBefore m.name
        (blank m.spaceAfter ++ (m.value.text.toList ++ (membersText false ms ++ ['}']))) := by
      rw [membersText, Member.toList_text]
      simp [lead, nextName]
    rw [htail] at hmembers ⊢
    refine ⟨fun _ _ => hname.isStuck_of_body, fun _ _ => hname.not_items,
      fun _ => not_colon_nextName, ?_⟩
    intro ms' r hms'
    obtain ⟨rfl, rfl⟩ := hmembers.unique hms'
    exact ⟨congrArg (· + 1) hms.length_eq.symm, rfl⟩

/-! ### What a reader of the command sees -/

/-- **In an object with as many members as were meant, the text is one literal.**  Were it to end
    the literal, the closing quote would be left for another one, and the members behind it would be
    too many. -/
theorem isLegal_of_membersSpelled {before after : List Member} {m : Member} {text : String}
    {es : List (String × Json)} (hname : IsPlain m.name) (hvalue : m.value = .spliced text)
    (htail : IsTail (membersText false after ++ ['}']) after.length)
    (hbefore : List.Forall₂ Member.Spells before es) {first : Bool}
    {entries : List (String × Json)} {rest : List Char}
    (h : MembersSpelled first entries (membersText first (before ++ m :: after) ++ ['}']) rest)
    (hrest : Spaces rest []) (hlength : entries.length = before.length + (after.length + 1)) :
    IsLegal text.toList := by
  -- the members in front of the text are read as they were meant, one after another
  induction hbefore generalizing first entries with
  | nil =>
    obtain ⟨name, v, entries', r, rfl, hmember, hms⟩ := exists_of_membersSpelled_cons h
    have hcount : entries'.length = after.length := by
      simp only [List.length_cons, List.length_nil] at hlength
      omega
    cases hmember with
    | mk hspaces hname' hcolon hspaces' hv =>
      rw [((m.spaces_text _).unique hspaces (by decide) (by decide)).2] at hname'
      rw [((hname.isLiteral.body _).unique hname').2] at hcolon
      rw [(Spaces.none.unique hcolon (by decide) (by decide)).2] at hspaces'
      -- the value begins with the opening quote, so it is a string
      rw [hvalue, Cell.toList_text_spliced] at hspaces'
      have hstart := hv.skipSpaces_eq hspaces'
      rw [(Spaces.blank _ _).skip_eq (by decide)] at hstart
      rw [← hstart] at hv
      obtain ⟨s, -, hs⟩ := hv.of_quote
      exact hs.isLegal htail hms hrest hcount
  | @cons p e before es hp _ ih =>
    obtain ⟨name, v, entries', r, rfl, hmember, hms⟩ := exists_of_membersSpelled_cons h
    have hmember' := hp.spelled (membersText false (before ++ m :: after) ++ ['}'])
    obtain ⟨-, -, hr⟩ := hmember'.unique (ends_membersText _ _) hmember hms.ends
    rw [hr] at hms
    apply ih hms
    simp only [List.length_cons] at hlength
    omega

namespace Frame.Splices

variable {f : Frame} {text : String}

/-- With a legal text, the members of the frame all stand for something. -/
theorem exists_spells (h : f.Splices text) (hlegal : IsLegal text.toList) :
    ∃ entries, List.Forall₂ Member.Spells f.members entries := by
  obtain ⟨before, m, after, hmembers, hname, hvalue, hbefore, hafter⟩ := h
  obtain ⟨es, hes⟩ := exists_spells_of_isFixed hbefore
  obtain ⟨es', hes'⟩ := exists_spells_of_isFixed hafter
  obtain ⟨s, hs⟩ := isLegal_iff_exists_isLiteral.mp hlegal
  have hcell : m.value.Spells (.string s) := hvalue ▸ ⟨s, rfl, hs⟩
  have hm : m.Spells (m.name, .string s) := ⟨rfl, hname, hcell⟩
  exact ⟨es ++ (m.name, .string s) :: es', hmembers ▸ List.rel_append hes (.cons hm hes')⟩

/-- In an intact frame the text is legal. -/
theorem isLegal (h : f.Splices text) (hintact : f.IsIntact) : IsLegal text.toList := by
  obtain ⟨before, m, after, hmembers, hname, hvalue, hbefore, hafter⟩ := h
  obtain ⟨es, hes⟩ := exists_spells_of_isFixed hbefore
  obtain ⟨es', hes'⟩ := exists_spells_of_isFixed hafter
  have htail := isTail_of_spells hes' fun p hp => (hafter p hp).name
  obtain ⟨entries, ⟨start, rest, hstart, hobject, hrest⟩, hentries⟩ := hintact
  have hlength : entries.length = before.length + (after.length + 1) := by
    have hnames := congrArg List.length hentries
    rwa [Frame.names, hmembers, List.length_map, List.length_map, List.length_append,
      List.length_cons] at hnames
  -- the object begins with the first character of the frame
  have hskip := hobject.skipSpaces_eq hstart
  rw [Frame.toList_text, hmembers, skipSpaces_cons_of_not (by decide)] at hskip
  rw [← hskip] at hobject
  obtain ⟨ms, hms, hspelled⟩ := hobject.of_object
  rw [← Json.object.inj hms] at hspelled
  exact isLegal_of_membersSpelled hname hvalue htail hes hspelled hrest hlength

/-- **The frame is intact just when the text is legal between quotes.** -/
theorem isIntact_iff (h : f.Splices text) : f.IsIntact ↔ IsLegal text.toList := by
  constructor
  · exact h.isLegal
  · intro hlegal
    obtain ⟨entries, hentries⟩ := h.exists_spells hlegal
    exact Frame.isIntact_of_spells hentries

end Frame.Splices

end MarketFeed
