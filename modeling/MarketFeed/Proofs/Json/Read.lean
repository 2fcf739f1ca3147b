import MarketFeed.Json.Decode
import MarketFeed.Proofs.Json.Unique

namespace MarketFeed.Json

/-!
# What readers make of JSON

* `Reads` — on every text that spells a value, a reader succeeds with just what the value means to
  it, and takes just the spelling off the text.
* `reads_string`, `reads_bool`, `reads_null`, `reads_optional` — values without structure.
* `reads_variant`, `reads_names` — names, in either of their forms.
* `reads_list`, `reads_strings`, `readMembers_iff` — the items of a list and the members of an
  object.
* `readText_iff` — whole texts.
-/

variable {α β σ : Type}

/-- On texts that spell `v`, the reader succeeds with the results that satisfy `Means` and no
    others, and leaves what follows the spelling. -/
def ReadsAt (read : Reader α) (v : Json) (Means : α → Prop) : Prop :=
  ∀ ⦃text start rest : List Char⦄, Spaces text start → Spelled v start rest → Ends rest →
    ∀ a r, read text = .ok (a, r) ↔ Means a ∧ r = rest

/-- `Means` says what each value means to the reader. -/
def Reads (read : Reader α) (Means : Json → α → Prop) : Prop := ∀ v, ReadsAt read v (Means v)

/-- Another way to say what values mean. -/
theorem Reads.congr {read : Reader α} {Means Means' : Json → α → Prop} (h : Reads read Means)
    (heq : ∀ v a, Means v a ↔ Means' v a) : Reads read Means' := by
  intro v text start rest hspaces hv hrest a r
  rw [h v hspaces hv hrest a r, heq]

/-- To read and then make something of it is to map the reader. -/
theorem return_eq_map (f : α → β) (read : Reader α) (text : List Char) :
    (do return f (← read) : Reader β) text = (read text).map fun p => (f p.1, p.2) := by
  show (read text >>= fun p => .ok (f p.1, p.2)) = _
  cases read text <;> rfl

/-- A reader whose result is changed afterwards. -/
theorem Reads.map {read : Reader α} {Means : Json → α → Prop} (h : Reads read Means) (f : α → β) :
    Reads (do return f (← read)) fun v b => ∃ a, Means v a ∧ b = f a := by
  intro v text start rest hspaces hv hrest b r
  have hread := h v hspaces hv hrest
  rw [return_eq_map, map_eq_ok_iff]
  constructor
  · rintro ⟨⟨a, r'⟩, ha, heq⟩
    obtain ⟨rfl, rfl⟩ := Prod.mk.inj heq
    obtain ⟨hmeans, rfl⟩ := (hread a r').mp ha
    exact ⟨⟨a, hmeans, rfl⟩, rfl⟩
  · rintro ⟨⟨a, hmeans, rfl⟩, rfl⟩
    exact ⟨(a, r), (hread a r).mpr ⟨hmeans, rfl⟩, rfl⟩

/-! ### Values without structure -/

/-- A string is read as its text. -/
theorem reads_string : Reads readString fun v s => v = .string s := by
  intro v text start rest hspaces hv hrest a r
  obtain ⟨c, cs, rfl, -⟩ := hv.head
  rw [readString, hv.skipSpaces_eq hspaces]
  by_cases hc : c = '"'
  · subst hc
    obtain ⟨s, rfl, hs⟩ := hv.of_quote
    simp [hs.read_eq, eq_comm]
  · -- no string begins with another character
    have hother : v ≠ .string a := by
      rintro rfl
      cases hv
      exact hc rfl
    simp [hc, hother]

/-- A truth value is read as itself. -/
theorem reads_bool : Reads readBool fun v b => v = .bool b := by
  intro v text start rest hspaces hv hrest a r
  obtain ⟨c, cs, rfl, -⟩ := hv.head
  rw [readBool, hv.skipSpaces_eq hspaces]
  by_cases ht : c = 't'
  · subst ht
    obtain ⟨rfl, rfl⟩ := hv.of_true
    simp only [if_true, readWord_append, map_ok]
    simp [eq_comm]
  by_cases hf : c = 'f'
  · subst hf
    obtain ⟨rfl, rfl⟩ := hv.of_false
    simp only [if_neg ht, if_true, readWord_append, map_ok]
    simp [eq_comm]
  · have hother : v ≠ .bool a := by
      rintro rfl
      cases hv
      · exact ht rfl
      · exact hf rfl
    simp [ht, hf, hother]

/-- What can only be `null` is read from just that. -/
theorem reads_null : Reads readNull fun v _ => v = .null := by
  intro v text start rest hspaces hv hrest a r
  obtain ⟨c, cs, rfl, -⟩ := hv.head
  rw [readNull, hv.skipSpaces_eq hspaces]
  by_cases hc : c = 'n'
  · subst hc
    obtain ⟨rfl, rfl⟩ := hv.of_null
    simp only [if_true, readWord_append]
    simp [eq_comm]
  · have hother : v ≠ .null := by
      rintro rfl
      cases hv
      exact hc rfl
    simp [hc, hother]

/-- `null`, or what another reader takes. -/
theorem reads_optional {read : Reader α} {Means : Json → α → Prop} (h : Reads read Means) :
    Reads (readOptional read) fun v a? =>
      (v = .null ∧ a? = none) ∨ (v ≠ .null ∧ ∃ a, Means v a ∧ a? = some a) := by
  intro v text start rest hspaces hv hrest a? r
  obtain ⟨c, cs, rfl, -⟩ := hv.head
  have hskip := hv.skipSpaces_eq hspaces
  by_cases hc : c = 'n'
  · subst hc
    obtain ⟨rfl, rfl⟩ := hv.of_null
    rw [readOptional, hskip]
    simp only [readWord_append, map_ok]
    simp [eq_comm]
  · have hother : v ≠ .null := by
      rintro rfl
      cases hv
      exact hc rfl
    -- the other reader starts again in front of the blanks
    have hread : readOptional read text = (do return some (← read) : Reader (Option α)) text := by
      rw [return_eq_map, readOptional, hskip]
      split
      · rename_i heq
        exact absurd (List.cons.inj heq).1 hc
      · rfl
    rw [hread, h.map some v hspaces hv hrest a? r]
    simp [hother]

/-! ### Codes -/

/-- A code is chosen just if it is listed. -/
theorem chooseVariant_eq_ok_iff (variants : List (String × α)) (code : String) (a : α) :
    chooseVariant variants code = .ok a ↔ variants.lookup code = some a := by
  unfold chooseVariant
  cases variants.lookup code <;> simp

/-- An object ends after its one member, or goes on. -/
theorem readVariantEnd_iff {ms : List (String × Json)} {text rest : List Char}
    (h : MembersSpelled false ms text rest) (r : List Char) :
    readVariantEnd text = .ok ((), r) ↔ ms = [] ∧ r = rest := by
  cases h with
  | done h =>
    rw [readVariantEnd, h.skip_eq (by decide)]
    simp [eq_comm]
  | member hcomma _ _ =>
    cases hcomma with
    | present h =>
      rw [readVariantEnd, h.skip_eq (by decide)]
      simp

/-- One of some codes, as a string or as the one name in an object. -/
theorem reads_variant (variants : List (String × α)) :
    Reads (readVariant variants) fun v a => ∃ code, variants.lookup code = some a ∧
      (v = .string code ∨ v = .object [(code, .null)]) := by
  intro v text start rest hspaces hv hrest a r
  obtain ⟨c, cs, rfl, -⟩ := hv.head
  rw [readVariant, hv.skipSpaces_eq hspaces]
  by_cases hq : c = '"'
  · subst hq
    obtain ⟨s, rfl, hs⟩ := hv.of_quote
    simp only [if_true, hs.read_eq, ok_bind, String.ofList_toList, bind_eq_ok_iff,
      chooseVariant_eq_ok_iff, pure_eq_ok, Except.ok.injEq, Prod.mk.injEq]
    constructor
    · rintro ⟨a, ha, rfl, rfl⟩
      exact ⟨⟨s, ha, .inl rfl⟩, rfl⟩
    · rintro ⟨⟨code, ha, heq | heq⟩, rfl⟩
      · cases heq
        exact ⟨a, ha, rfl, rfl⟩
      · cases heq
  by_cases ho : c = '{'
  · subst ho
    obtain ⟨ms, rfl, hms⟩ := hv.of_object
    -- an object has the one name and then ends, which `readVariantEnd` checks
    cases hms with
    | done h =>
      simp only [if_neg hq, if_true, h.skip_eq (c := '}') (by decide)]
      simp
    | @member _ name w ms _ t t' _ hcomma hmember h =>
      cases hcomma
      obtain ⟨hspaces, hname, hcolon, hspaces', hvalue⟩ := hmember
      have hnull := reads_null w hspaces' hvalue h.ends
      simp only [if_neg hq, if_true, hspaces.skip_eq (c := '"') (by decide), hname.read_eq, ok_bind,
        String.ofList_toList, bind_eq_ok_iff, chooseVariant_eq_ok_iff, readColon_eq hcolon,
        pure_eq_ok, Except.ok.injEq, Prod.mk.injEq]
      constructor
      · rintro ⟨a, ha, ⟨⟨⟩, t⟩, hread, ⟨⟨⟩, t'⟩, hend, rfl, rfl⟩
        obtain ⟨rfl, rfl⟩ := (hnull () t).mp hread
        obtain ⟨rfl, rfl⟩ := (readVariantEnd_iff h t').mp hend
        exact ⟨⟨name, ha, .inr rfl⟩, rfl⟩
      · rintro ⟨⟨code, ha, heq | heq⟩, rfl⟩
        · cases heq
        · cases heq
          exact ⟨a, ha, ⟨(), _⟩, (hnull () _).mpr ⟨rfl, rfl⟩, ⟨(), _⟩,
            (readVariantEnd_iff h _).mpr ⟨rfl, rfl⟩, rfl, rfl⟩
  · -- the first character tells that it is neither
    have hother : ∀ code, v ≠ .string code ∧ v ≠ .object [(code, .null)] := by
      intro code
      constructor
      · rintro rfl
        cases hv
        exact hq rfl
      · rintro rfl
        cases hv
        exact ho rfl
    simp only [if_neg hq, if_neg ho, reduceCtorEq, false_iff]
    rintro ⟨⟨code, -, heq | heq⟩, -⟩
    · exact (hother code).1 heq
    · exact (hother code).2 heq

/-- The value holds the name: as a string, or as the only name of an object, whose value is
    `null`. -/
def StandsFor (v : Json) (name : String) : Prop := v = .string name ∨ v = .object [(name, .null)]

/-- A value holds one name at most. -/
theorem StandsFor.unique {v : Json} {name name' : String} (h : StandsFor v name)
    (h' : StandsFor v name') : name' = name := by
  rcases h with rfl | rfl
  · rcases h' with h' | h'
    · exact (Json.string.inj h').symm
    · cases h'
  · rcases h' with h' | h'
    · cases h'
    · simp only [Json.object.injEq, List.cons.injEq, Prod.mk.injEq] at h'
      exact h'.1.1.symm

/-- Terms with different names are read from their names. -/
theorem reads_names {name : α → String} {terms : List α} (hall : ∀ a, a ∈ terms)
    (hinj : ∀ a b, name a = name b → a = b) :
    Reads (readVariant (terms.map fun a => (name a, a))) fun v a => StandsFor v (name a) := by
  have hmem : ∀ (text : String) (a : α),
      (text, a) ∈ (terms.map fun a => (name a, a)) ↔ text = name a := by
    intro text a
    rw [List.mem_map]
    constructor
    · rintro ⟨b, -, hb⟩
      obtain ⟨rfl, rfl⟩ := Prod.mk.inj hb
      rfl
    · rintro rfl
      exact ⟨a, hall a, rfl⟩
  -- no two terms share a name, so the first entry found is the only one
  have hlookup : ∀ (text : String) (a : α),
      (terms.map fun a => (name a, a)).lookup text = some a ↔ text = name a := by
    intro text a
    rw [lookup_eq_some_iff_mem, hmem]
    intro text a b ha hb
    rw [hmem] at ha hb
    exact hinj a b (ha.symm.trans hb)
  apply (reads_variant _).congr
  intro v a
  simp only [hlookup]
  constructor
  · rintro ⟨text, rfl, h⟩
    exact h
  · intro h
    exact ⟨_, rfl, h⟩

/-! ### Lists -/

/-- A list ends, or has an item, just as it is spelled. -/
theorem hasItem_done {first : Bool} {text rest : List Char} (h : Spaces text (']' :: rest)) :
    hasItem first text = .ok (false, ']' :: rest) := by
  rw [hasItem, h.skip_eq (by decide)]
  rfl

/-- Where an item stands, there is one to read. -/
theorem hasItem_item {first : Bool} {text t start rest : List Char} {v : Json}
    (hcomma : Comma first text t) (hspaces : Spaces t start) (hvalue : Spelled v start rest) :
    hasItem first text = .ok (true, start) := by
  obtain ⟨c, cs, rfl, hspace, -, hend, -⟩ := hvalue.head
  cases hcomma with
  | absent =>
    rw [hasItem, hspaces.skip_eq hspace]
    simp [hend]
  | present h =>
    rw [hasItem, h.skip_eq (by decide)]
    simp [hspaces.skip_eq hspace, hend]

/-- The items of a list are read one by one. -/
theorem readItems_iff {read : Reader α} {Means : Json → α → Prop} (hread : Reads read Means)
    {first : Bool} {vs : List Json} {text rest : List Char} (h : ItemsSpelled first vs text rest)
    (as : List α) (r : List Char) :
    readItems read first text = .ok (as, r) ↔ List.Forall₂ Means vs as ∧ r = rest := by
  induction vs generalizing first text as r with
  | nil =>
    cases h with
    | done h =>
      rw [readItems, hasItem_done h]
      simp [eq_comm]
  | cons v vs ih =>
    cases h with
    | @item _ _ _ _ t start t' _ hcomma hspaces hvalue h =>
      have hitem := hread v .none hvalue h.ends
      -- the reader goes on only when the item has taken something off the text
      have hlt : t'.length < text.length := by
        have hcomma := hcomma.length_le
        have hspaces := hspaces.length_le
        have hvalue := hvalue.length_lt
        omega
      rw [readItems, hasItem_item hcomma hspaces hvalue]
      simp only
      constructor
      · intro hok
        split at hok
        · cases hok
        · rename_i a rest' ha
          obtain ⟨hmeans, rfl⟩ := (hitem a rest').mp ha
          rw [if_pos hlt] at hok
          split at hok
          · cases hok
          · rename_i as' rest'' has
            obtain ⟨hmeans', rfl⟩ := (ih h as' rest'').mp has
            obtain ⟨rfl, rfl⟩ := Prod.mk.inj (Except.ok.inj hok)
            exact ⟨.cons hmeans hmeans', rfl⟩
      · rintro ⟨hmeans, rfl⟩
        cases hmeans with
        | @cons _ a _ as' hmeans hmeans' =>
          rw [(hitem a t').mpr ⟨hmeans, rfl⟩]
          simp only [if_pos hlt]
          rw [(ih h as' r).mpr ⟨hmeans', rfl⟩]

/-- A list of what another reader takes. -/
theorem reads_list {read : Reader α} {Means : Json → α → Prop} (h : Reads read Means) :
    Reads (readList read) fun v as => ∃ vs, v = .array vs ∧ List.Forall₂ Means vs as := by
  intro v text start rest hspaces hv hrest as r
  obtain ⟨c, cs, rfl, -⟩ := hv.head
  rw [readList, hv.skipSpaces_eq hspaces]
  by_cases hc : c = '['
  · subst hc
    obtain ⟨vs, rfl, hvs⟩ := hv.of_list
    simp only [if_true, readItems_iff h hvs]
    simp
  · have hother : ∀ vs, v ≠ .array vs := by
      rintro vs rfl
      cases hv
      exact hc rfl
    simp [hc, hother]

/-- A list of strings, item by item. -/
theorem forall₂_string_iff (vs : List Json) (ss : List String) :
    List.Forall₂ (fun v s => v = Json.string s) vs ss ↔ vs = ss.map Json.string := by
  rw [← List.forall₂_eq_eq_eq, List.forall₂_map_right_iff]

/-- A list of strings is read from the array of just these strings. -/
theorem reads_strings : Reads (readList readString) fun v ss => v = ofStrings ss := by
  apply (reads_list reads_string).congr
  intro v ss
  simp only [forall₂_string_iff, ofStrings]
  constructor
  · rintro ⟨vs, rfl, rfl⟩
    rfl
  · rintro rfl
    exact ⟨_, rfl, rfl⟩

/-! ### Objects -/

/-- Where the object closes, there is no member to read. -/
theorem hasMember_done {first : Bool} {text rest : List Char} (h : Spaces text ('}' :: rest)) :
    hasMember first text = .ok (false, '}' :: rest) := by
  rw [hasMember, h.skip_eq (by decide)]
  rfl

/-- Where a member stands, there is one to read. -/
theorem hasMember_member {first : Bool} {text t rest : List Char} (hcomma : Comma first text t)
    (hspaces : Spaces t ('"' :: rest)) : hasMember first text = .ok (true, rest) := by
  cases hcomma with
  | absent =>
    rw [hasMember, hspaces.skip_eq (by decide)]
    rfl
  | present h =>
    rw [hasMember, h.skip_eq (by decide)]
    simp [hspaces.skip_eq (c := '"') (by decide)]

/-- `Step` says how a member of each name and value changes the state. -/
def ReadsMembers (member : σ → String → Except Fault (Reader σ))
    (Step : σ → String → Json → σ → Prop) : Prop :=
  ∀ state name v ⦃text start rest : List Char⦄, Spaces text start → Spelled v start rest →
    Ends rest → ∀ state' r,
      (member state name >>= fun read => read text) = .ok (state', r) ↔
        Step state name v state' ∧ r = rest

/-- The members lead from one state to another, step by step. -/
def Collects (Step : σ → String → Json → σ → Prop) : σ → List (String × Json) → σ → Prop
  | state, [], state' => state' = state
  | state, (name, v) :: ms, state' => ∃ next, Step state name v next ∧ Collects Step next ms state'

/-- The members of an object are read one by one. -/
theorem readMembers_iff {member : σ → String → Except Fault (Reader σ)}
    {Step : σ → String → Json → σ → Prop} (hread : ReadsMembers member Step) {first : Bool}
    {ms : List (String × Json)} {text rest : List Char} (h : MembersSpelled first ms text rest)
    (state state' : σ) (r : List Char) :
    readMembers member first state text = .ok (state', r) ↔
      Collects Step state ms state' ∧ r = rest := by
  induction ms generalizing first text state r with
  | nil =>
    cases h with
    | done h =>
      rw [readMembers, hasMember_done h]
      simp [Collects, eq_comm]
  | cons m ms ih =>
    cases h with
    | @member _ name v _ _ t t' _ hcomma hmember h =>
      -- the reader goes on only when the member has taken something off the text
      have hlt : t'.length < text.length := by
        have hcomma := hcomma.length_le
        have hmember := hmember.length_lt
        omega
      obtain ⟨hspaces, hname, hcolon, hspaces', hvalue⟩ := hmember
      have hstep := hread state name v hspaces' hvalue h.ends
      rw [readMembers, hasMember_member hcomma hspaces]
      simp only [hname.read_eq, String.ofList_toList]
      cases hm : member state name with
      | error e =>
        -- the name is refused, so no value of it is a step
        simp only [hm, error_bind, reduceCtorEq, false_iff, not_and] at hstep
        simp only [reduceCtorEq, false_iff]
        rintro ⟨⟨next, hnext, -⟩, -⟩
        exact hstep next _ hnext rfl
      | ok read =>
        simp only [hm, ok_bind] at hstep
        simp only [readColon_eq hcolon]
        constructor
        · intro hok
          split at hok
          · cases hok
          · rename_i next rest' hnext
            obtain ⟨hnext', rfl⟩ := (hstep next rest').mp hnext
            rw [if_pos hlt] at hok
            obtain ⟨hcollects, rfl⟩ := (ih h next r).mp hok
            exact ⟨⟨next, hnext', hcollects⟩, rfl⟩
        · rintro ⟨⟨next, hnext, hcollects⟩, rfl⟩
          rw [(hstep next t').mpr ⟨hnext, rfl⟩]
          simp only [if_pos hlt]
          exact (ih h next r).mpr ⟨hcollects, rfl⟩

/-- The members of an object of strings. -/
def ofEntries (entries : List (String × String)) : List (String × Json) :=
  entries.map fun e => (e.1, .string e.2)

/-- A member sets the parameter of its name. -/
def SetsParam (params : Params) (name : String) (v : Json) (params' : Params) : Prop :=
  ∃ value, v = .string value ∧ params' = params.insert name value

/-- Members that are set one after another are parameters. -/
theorem collects_setsParam (ms : List (String × Json)) (params params' : Params) :
    Collects SetsParam params ms params' ↔ ∃ entries, ms = ofEntries entries ∧
      params' = entries.foldl (fun p e => p.insert e.1 e.2) params := by
  induction ms generalizing params with
  | nil =>
    constructor
    · rintro rfl
      exact ⟨[], rfl, rfl⟩
    · rintro ⟨entries, hentries, rfl⟩
      obtain rfl := List.map_eq_nil_iff.mp hentries.symm
      rfl
  | cons m ms ih =>
    obtain ⟨name, v⟩ := m
    constructor
    · rintro ⟨next, ⟨value, rfl, rfl⟩, hcollects⟩
      obtain ⟨entries, rfl, rfl⟩ := (ih _).mp hcollects
      exact ⟨(name, value) :: entries, rfl, rfl⟩
    · rintro ⟨entries, hentries, rfl⟩
      cases entries with
      | nil => cases hentries
      | cons e entries =>
        obtain ⟨hm, rfl⟩ := List.cons.inj hentries
        obtain ⟨rfl, rfl⟩ := Prod.mk.inj hm
        exact ⟨_, ⟨e.2, rfl, rfl⟩, (ih _).mpr ⟨entries, rfl, rfl⟩⟩

/-- An object of strings, which sets its parameters one after another. -/
theorem reads_params :
    Reads readParams fun v params => ∃ entries, v = .object (ofEntries entries) ∧
      params = Params.ofList entries := by
  intro v text start rest hspaces hv hrest params r
  have hmembers : ReadsMembers (fun params name => .ok fun cs =>
      readString cs >>= fun p => .ok (params.insert name p.1, p.2)) SetsParam := by
    intro params name v text start rest hspaces hv hrest params' r
    have hstring := reads_string v hspaces hv hrest
    rw [ok_bind, bind_eq_ok_iff]
    constructor
    · rintro ⟨⟨value, r'⟩, hvalue, heq⟩
      obtain ⟨rfl, rfl⟩ := Prod.mk.inj (Except.ok.inj heq)
      obtain ⟨rfl, rfl⟩ := (hstring value r').mp hvalue
      exact ⟨⟨value, rfl, rfl⟩, rfl⟩
    · rintro ⟨⟨value, rfl, rfl⟩, rfl⟩
      exact ⟨(value, r), (hstring value r).mpr ⟨rfl, rfl⟩, rfl⟩
  obtain ⟨c, cs, rfl, -⟩ := hv.head
  rw [readParams, hv.skipSpaces_eq hspaces]
  by_cases hc : c = '{'
  · subst hc
    obtain ⟨ms, rfl, hms⟩ := hv.of_object
    simp only [if_true]
    refine (readMembers_iff hmembers hms .empty params r).trans ?_
    simp only [collects_setsParam, Json.object.injEq]
    rfl
  · have hother : ∀ ms, v ≠ .object ms := by
      rintro ms rfl
      cases hv
      exact hc rfl
    simp [hc, hother]

/-! ### Whole texts -/

/-- **A whole text is read as its value**, when it is one. -/
theorem readText_iff {read : Reader α} {Means : Json → α → Prop} (hread : Reads read Means)
    {v : Json} {text : String} (h : Document v text.toList) (a : α) :
    readText read text = .ok a ↔ Means v a := by
  obtain ⟨start, rest, hstart, hv, hrest⟩ := h
  have hvalue := hread v hstart hv hrest.ends_of_nil
  have hend : (skipSpaces rest).isEmpty = true := by rw [hrest.skip_nil]; rfl
  unfold readText
  constructor
  · intro hok
    split at hok
    · cases hok
    · rename_i b r hb
      obtain ⟨hmeans, rfl⟩ := (hvalue b r).mp hb
      rw [if_pos hend] at hok
      exact Except.ok.inj hok ▸ hmeans
  · intro hmeans
    rw [(hvalue a rest).mpr ⟨hmeans, rfl⟩]
    simp only [hend, if_true]

end MarketFeed.Json
