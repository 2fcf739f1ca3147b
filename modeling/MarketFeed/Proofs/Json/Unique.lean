import MarketFeed.Proofs.Json.Skip

namespace MarketFeed.Json

/-!
# One text, one value

The grammar is unambiguous: the first character of a value tells its kind, and what follows tells
where it ends.

* `Spelled.of_quote`, `Spelled.of_list`, `Spelled.of_object`, `Spelled.of_null`, … — what a text
  that begins with some character spells.
* `Spelled.unique` — a text spells at most one value, and leaves one rest.
* `Document.unique` — a whole text is at most one value.
-/

variable {text rest rest' : List Char} {v : Json}

/-! ### The first character of a value -/

/-- No number begins with a character that is neither a minus nor a digit. -/
theorem IsNumber.ne_cons {literal : List Char} {c : Char} (h : IsNumber literal)
    (hc : ¬ IsNumberHead c) : c :: text ≠ literal ++ rest := by
  obtain ⟨d, ds, rfl, hd⟩ := h.head
  rintro heq
  exact hc ((List.cons.inj heq).1 ▸ hd)

/-- Nothing but a minus or a digit begins a number. -/
theorem not_isNumberHead {c : Char} (hc : c ≠ '-' ∧ c.isDigit = false) : ¬ IsNumberHead c :=
  fun h => h.ne hc rfl

/-- A value that begins with a quote is a string. -/
theorem Spelled.of_quote (h : Spelled v ('"' :: text) rest) :
    ∃ s, v = .string s ∧ StringBody s.toList text rest := by
  generalize hstart : '"' :: text = start at h
  cases h with
  | string h => cases hstart; exact ⟨_, rfl, h⟩
  | number h => exact absurd hstart (h.ne_cons (not_isNumberHead (by decide)))
  | _ => cases hstart

theorem Spelled.of_list (h : Spelled v ('[' :: text) rest) :
    ∃ vs, v = .array vs ∧ ItemsSpelled true vs text rest := by
  generalize hstart : '[' :: text = start at h
  cases h with
  | array h => cases hstart; exact ⟨_, rfl, h⟩
  | number h => exact absurd hstart (h.ne_cons (not_isNumberHead (by decide)))
  | _ => cases hstart

theorem Spelled.of_object (h : Spelled v ('{' :: text) rest) :
    ∃ ms, v = .object ms ∧ MembersSpelled true ms text rest := by
  generalize hstart : '{' :: text = start at h
  cases h with
  | object h => cases hstart; exact ⟨_, rfl, h⟩
  | number h => exact absurd hstart (h.ne_cons (not_isNumberHead (by decide)))
  | _ => cases hstart

theorem Spelled.of_null (h : Spelled v ('n' :: text) rest) :
    v = .null ∧ text = "ull".toList ++ rest := by
  generalize hstart : 'n' :: text = start at h
  cases h with
  | null => cases hstart; exact ⟨rfl, rfl⟩
  | number h => exact absurd hstart (h.ne_cons (not_isNumberHead (by decide)))
  | _ => cases hstart

theorem Spelled.of_true (h : Spelled v ('t' :: text) rest) :
    v = .bool true ∧ text = "rue".toList ++ rest := by
  generalize hstart : 't' :: text = start at h
  cases h with
  | boolTrue => cases hstart; exact ⟨rfl, rfl⟩
  | number h => exact absurd hstart (h.ne_cons (not_isNumberHead (by decide)))
  | _ => cases hstart

theorem Spelled.of_false (h : Spelled v ('f' :: text) rest) :
    v = .bool false ∧ text = "alse".toList ++ rest := by
  generalize hstart : 'f' :: text = start at h
  cases h with
  | boolFalse => cases hstart; exact ⟨rfl, rfl⟩
  | number h => exact absurd hstart (h.ne_cons (not_isNumberHead (by decide)))
  | _ => cases hstart

/-- A value that begins with a minus or a digit is a number. -/
theorem Spelled.of_number {c : Char} (hc : IsNumberHead c) (h : Spelled v (c :: text) rest) :
    ∃ literal, v = .number literal ∧ IsNumber literal.toList ∧
      c :: text = literal.toList ++ rest := by
  generalize hstart : c :: text = start at h ⊢
  cases h with
  | number h => exact ⟨_, rfl, h, rfl⟩
  | _ => cases hstart; exact absurd rfl (hc.ne (by decide))

/-! ### Tokens -/

/-- A literal has one reading, and one end. -/
theorem StringBody.unique {s s' : List Char} (h : StringBody s text rest)
    (h' : StringBody s' text rest') : s' = s ∧ rest' = rest := by
  have heq := h'.read_eq
  rw [h.read_eq] at heq
  obtain ⟨rfl, rfl⟩ := Prod.mk.inj (Except.ok.inj heq)
  exact ⟨rfl, rfl⟩

/-- A number in front of what ends it is told from that. -/
theorem IsNumber.unique {literal literal' : List Char} (h : IsNumber literal)
    (h' : IsNumber literal') (hrest : Ends rest) (hrest' : Ends rest')
    (heq : literal ++ rest = literal' ++ rest') : literal' = literal ∧ rest' = rest := by
  -- both literals are what a reader takes off the one text
  have hskip := h'.skip_eq hrest'
  rw [← heq, h.skip_eq hrest] at hskip
  obtain rfl := Except.ok.inj hskip
  exact ⟨(List.append_cancel_right heq).symm, rfl⟩

/-- One token is found behind some blanks. -/
theorem Spaces.unique {c d : Char} (h : Spaces text (c :: rest)) (h' : Spaces text (d :: rest'))
    (hc : ¬ isSpace c) (hd : ¬ isSpace d) : d = c ∧ rest' = rest := by
  have heq := h'.skip_eq hd
  rw [h.skip_eq hc] at heq
  obtain ⟨rfl, rfl⟩ := List.cons.inj heq
  exact ⟨rfl, rfl⟩

/-- What is left behind a comma is told by the text. -/
theorem Comma.unique {first : Bool} (h : Comma first text rest) (h' : Comma first text rest') :
    rest' = rest := by
  cases h with
  | absent => cases h'; rfl
  | present h =>
    cases h' with
    | present h' => exact (h.unique h' (by decide) (by decide)).2

/-- Behind the comma of an item, blanks end at one place. -/
theorem Spelled.start_unique {v' : Json} {start start' r r' : List Char} (h : Spelled v start r)
    (h' : Spelled v' start' r') (hs : Spaces text start) (hs' : Spaces text start') :
    start' = start := by
  rw [← h.skipSpaces_eq hs, h'.skipSpaces_eq hs']

/-- Where an enclosure ends, nothing else of it follows. -/
theorem Comma.not_end {first : Bool} {t : List Char} {c d : Char} (hcomma : Comma first text t)
    (hs : Spaces t (d :: rest')) (hd : ¬ isSpace d) (hend : Spaces text (c :: rest))
    (hc : ¬ isSpace c) (hdc : d ≠ c) (hc' : c ≠ ',') : False := by
  cases hcomma with
  | absent => exact hdc (hend.unique hs hc hd).1
  | present hcomma => exact hc' (hend.unique hcomma hc (by decide)).1.symm

/-! ### Values -/

mutual

/-- **A text spells at most one value**, and leaves one rest. -/
theorem Spelled.unique {v : Json} {text rest : List Char} :
    Spelled v text rest → Ends rest → ∀ {v' : Json} {rest' : List Char},
      Spelled v' text rest' → Ends rest' → v' = v ∧ rest' = rest
  | .null, _, _, _, h', _ => by
    obtain ⟨rfl, h⟩ := h'.of_null
    cases h
    exact ⟨rfl, rfl⟩
  | .boolTrue, _, _, _, h', _ => by
    obtain ⟨rfl, h⟩ := h'.of_true
    cases h
    exact ⟨rfl, rfl⟩
  | .boolFalse, _, _, _, h', _ => by
    obtain ⟨rfl, h⟩ := h'.of_false
    cases h
    exact ⟨rfl, rfl⟩
  | .number h, hrest, _, _, h', hrest' => by
    -- the first character tells that the other value is a number too
    obtain ⟨c, cs, hcs, hc⟩ := h.head
    rw [hcs, List.cons_append] at h'
    obtain ⟨literal', rfl, hliteral', heq⟩ := h'.of_number hc
    rw [← List.cons_append, ← hcs] at heq
    obtain ⟨heq', rfl⟩ := h.unique hliteral' hrest hrest' heq
    exact ⟨congrArg Json.number (String.toList_inj.mp heq'), rfl⟩
  | .string h, _, _, _, h', _ => by
    obtain ⟨s', rfl, hs'⟩ := h'.of_quote
    obtain ⟨heq, rfl⟩ := h.unique hs'
    exact ⟨congrArg Json.string (String.toList_inj.mp heq), rfl⟩
  | .array h, _, _, _, h', _ => by
    obtain ⟨vs', rfl, hvs'⟩ := h'.of_list
    obtain ⟨rfl, rfl⟩ := h.unique hvs'
    exact ⟨rfl, rfl⟩
  | .object h, _, _, _, h', _ => by
    obtain ⟨ms', rfl, hms'⟩ := h'.of_object
    obtain ⟨rfl, rfl⟩ := h.unique hms'
    exact ⟨rfl, rfl⟩
termination_by structural h => h

/-- The rest of a list spells the same items in every reading. -/
theorem ItemsSpelled.unique {first : Bool} {vs : List Json} {text rest : List Char} :
    ItemsSpelled first vs text rest → ∀ {vs' : List Json} {rest' : List Char},
      ItemsSpelled first vs' text rest' → vs' = vs ∧ rest' = rest
  | .done h, _, _, .done h' => ⟨rfl, (h.unique h' (by decide) (by decide)).2⟩
  | .done h, _, _, .item hcomma' hspaces' hvalue' _ => by
    obtain ⟨d, ds, rfl, hd, -, hend, -⟩ := hvalue'.head
    exact (hcomma'.not_end hspaces' hd h (by decide) hend (by decide)).elim
  | .item hcomma hspaces hvalue _, _, _, .done h' => by
    obtain ⟨d, ds, rfl, hd, -, hend, -⟩ := hvalue.head
    exact (hcomma.not_end hspaces hd h' (by decide) hend (by decide)).elim
  | .item hcomma hspaces hvalue h, _, _, .item hcomma' hspaces' hvalue' h' => by
    -- the second derivation is rewritten, so that the first one stays what the recursion is on
    rw [hcomma.unique hcomma'] at hspaces'
    rw [hvalue.start_unique hvalue' hspaces hspaces'] at hvalue'
    obtain ⟨rfl, hrest⟩ := hvalue.unique h.ends hvalue' h'.ends
    rw [hrest] at h'
    obtain ⟨rfl, rfl⟩ := h.unique h'
    exact ⟨rfl, rfl⟩
termination_by structural h => h

/-- So does the rest of an object with its members. -/
theorem MembersSpelled.unique {first : Bool} {ms : List (String × Json)} {text rest : List Char} :
    MembersSpelled first ms text rest → ∀ {ms' : List (String × Json)} {rest' : List Char},
      MembersSpelled first ms' text rest' → ms' = ms ∧ rest' = rest
  | .done h, _, _, .done h' => ⟨rfl, (h.unique h' (by decide) (by decide)).2⟩
  | .done h, _, _, .member hcomma' (.mk hspaces' _ _ _ _) _ =>
    (hcomma'.not_end hspaces' (by decide) h (by decide) (by decide) (by decide)).elim
  | .member hcomma (.mk hspaces _ _ _ _) _, _, _, .done h' =>
    (hcomma.not_end hspaces (by decide) h' (by decide) (by decide) (by decide)).elim
  | .member hcomma hmember h, _, _, .member hcomma' hmember' h' => by
    rw [hcomma.unique hcomma'] at hmember'
    obtain ⟨rfl, rfl, hrest⟩ := hmember.unique h.ends hmember' h'.ends
    rw [hrest] at h'
    obtain ⟨rfl, rfl⟩ := h.unique h'
    exact ⟨rfl, rfl⟩
termination_by structural h => h

/-- A member has one name and one value. -/
theorem MemberSpelled.unique {name : String} {v : Json} {text rest : List Char} :
    MemberSpelled name v text rest → Ends rest → ∀ {name' : String} {v' : Json}
      {rest' : List Char}, MemberSpelled name' v' text rest' → Ends rest' →
        name' = name ∧ v' = v ∧ rest' = rest
  | .mk hspaces hname hcolon hspaces₂ hvalue, hrest, _, _, _,
      .mk hspaces' hname' hcolon' hspaces₂' hvalue', hrest' => by
    rw [(hspaces.unique hspaces' (by decide) (by decide)).2] at hname'
    obtain ⟨heq, hend⟩ := hname.unique hname'
    obtain rfl := String.toList_inj.mp heq
    rw [hend] at hcolon'
    rw [(hcolon.unique hcolon' (by decide) (by decide)).2] at hspaces₂'
    rw [hvalue.start_unique hvalue' hspaces₂ hspaces₂'] at hvalue'
    obtain ⟨rfl, rfl⟩ := hvalue.unique hrest hvalue' hrest'
    exact ⟨rfl, rfl, rfl⟩
termination_by structural h => h

end

/-- Blanks up to the end of a text end a value. -/
theorem Spaces.ends_of_nil (h : Spaces text []) : Ends text := h.ends (by simp [Ends])

/-- **A whole text is at most one value.** -/
theorem Document.unique {v' : Json} (h : Document v text) (h' : Document v' text) : v' = v := by
  obtain ⟨start, rest, hstart, hv, hrest⟩ := h
  obtain ⟨start', rest', hstart', hv', hrest'⟩ := h'
  -- both values begin behind the same blanks
  obtain rfl := hv.start_unique hv' hstart hstart'
  exact (hv.unique hrest.ends_of_nil hv' hrest'.ends_of_nil).1

end MarketFeed.Json
