import Mathlib.Data.List.Nodup
import MarketFeed.Json.Record
import MarketFeed.Proofs.Json.Read

namespace MarketFeed.Json

/-!
# What records are read from

A record has two forms, and both amount to members under the names of its fields.

* `valuesOf`, `recordMembers?` — the values under a name, and the members of either form.
* `Slot`, `Schema.Laws` — the part of a draft that each field fills, and the laws that tie the
  fields of a schema to such slots.
* `collects_iff` — members fill a draft when each slot is filled at most once, by its own name.
* `takes_iff` — items fill a draft as members under the names of the fields do.
* `Schema.reads` — a record is read in either form.
-/

variable {δ ρ : Type}

/-! ### Members -/

/-- The values under a name, in order. -/
def valuesOf (name : String) (ms : List (String × Json)) : List Json :=
  (ms.filter fun m => m.1 == name).map Prod.snd

/-- A member of the name is the first of its values. -/
@[simp] theorem valuesOf_cons_self (name : String) (v : Json) (ms : List (String × Json)) :
    valuesOf name ((name, v) :: ms) = v :: valuesOf name ms := by
  simp [valuesOf]

/-- A member of another name is none of them. -/
theorem valuesOf_cons_of_ne {name other : String} (h : other ≠ name) (v : Json)
    (ms : List (String × Json)) : valuesOf name ((other, v) :: ms) = valuesOf name ms := by
  simp [valuesOf, h]

/-- The members of a record: those of an object, or the items of a list under the names of the
    fields in order.  A list has at least `least` items, and no more than there are fields. -/
def recordMembers? (names : List String) (least : Nat) : Json → Option (List (String × Json))
  | .object ms => some ms
  | .array vs =>
    if least ≤ vs.length ∧ vs.length ≤ names.length then some (names.zip vs) else none
  | _ => none

/-! ### Slots -/

/-- The part of a draft that one field fills. -/
structure Slot (δ : Type) where
  name : String
  Value : Type
  get : δ → Option Value
  set : δ → Value → δ
  /-- What a JSON value means here. -/
  Means : Json → Value → Prop
  /-- A list may end before the field. -/
  mayEnd : Bool := false

/-- The field fills the slot. -/
structure Field.Fits (f : Field δ) (s : Slot δ) : Prop where
  name : f.name = s.name
  isSet : ∀ d, f.isSet d = (s.get d).isSome
  reads : ∀ d, Reads (f.read d) fun v d' => ∃ a, s.Means v a ∧ d' = s.set d a
  mayEnd : f.mayEnd = s.mayEnd

/-- The fields of the schema fill these slots, each of them only its own, and nothing else is in a
    draft. -/
structure Schema.Laws (schema : Schema δ ρ) (slots : List (Slot δ)) : Prop where
  fits : List.Forall₂ Field.Fits schema.fields slots
  nodup : (slots.map Slot.name).Nodup
  get_set : ∀ s ∈ slots, ∀ d a, s.get (s.set d a) = some a
  get_set_of_ne : ∀ s ∈ slots, ∀ t ∈ slots, t.name ≠ s.name → ∀ d a, t.get (s.set d a) = t.get d
  ext : ∀ d d', (∀ s ∈ slots, s.get d' = s.get d) → d' = d
  empty : ∀ s ∈ slots, s.get schema.empty = none

namespace Schema.Laws

variable {schema : Schema δ ρ} {slots : List (Slot δ)} (h : schema.Laws slots)

include h

/-- A slot is known by its name. -/
theorem eq_of_name {s t : Slot δ} (hs : s ∈ slots) (ht : t ∈ slots) (hname : s.name = t.name) :
    s = t :=
  List.inj_on_of_nodup_map h.nodup hs ht hname

/-- A slot has its field. -/
theorem exists_field {s : Slot δ} (hs : s ∈ slots) : ∃ f ∈ schema.fields, f.Fits s :=
  exists_of_forall₂_right h.fits hs

/-- A field has its slot. -/
theorem exists_slot {f : Field δ} (hf : f ∈ schema.fields) : ∃ s ∈ slots, f.Fits s :=
  exists_of_forall₂_left h.fits hf

end Schema.Laws

/-! ### Objects -/

/-- A member fills the empty slot of its name, or is passed over when there is no such slot. -/
def FillsSlot (slots : List (Slot δ)) (d : δ) (name : String) (v : Json) (d' : δ) : Prop :=
  (∃ s ∈ slots, s.name = name ∧ s.get d = none ∧ ∃ a, s.Means v a ∧ d' = s.set d a) ∨
    ((∀ s ∈ slots, s.name ≠ name) ∧ d' = d)

/-- The fields of a schema read members as the slots have it. -/
theorem Schema.Laws.readsMembers {schema : Schema δ ρ} {slots : List (Slot δ)}
    (h : schema.Laws slots) : ReadsMembers schema.member (FillsSlot slots) := by
  intro d name v text start rest hspaces hv hrest d' r
  unfold Schema.member
  cases hfind : schema.fields.find? fun f => f.name == name with
  | none =>
    -- the name is of no field, so its value is passed over
    have hnames : ∀ s ∈ slots, s.name ≠ name := by
      intro s hs hname
      obtain ⟨f, hf, hfits⟩ := h.exists_field hs
      have hne := List.find?_eq_none.mp hfind f hf
      rw [hfits.name, hname] at hne
      exact hne (beq_self_eq_true name)
    simp only [ok_bind, hv.skip_eq hspaces hrest]
    constructor
    · intro heq
      obtain ⟨rfl, rfl⟩ := Prod.mk.inj (Except.ok.inj heq)
      exact ⟨.inr ⟨hnames, rfl⟩, rfl⟩
    · rintro ⟨⟨s, hs, hname, -⟩ | ⟨-, rfl⟩, rfl⟩
      · exact absurd hname (hnames s hs)
      · rfl
  | some f =>
    -- the field that is found fills the one slot of the name
    have hf := List.mem_of_find?_eq_some hfind
    have hname : f.name = name := by simpa using List.find?_some hfind
    obtain ⟨s, hs, hfits⟩ := h.exists_slot hf
    have hname' : s.name = name := hfits.name ▸ hname
    have hfills : FillsSlot slots d name v d' ↔
        s.get d = none ∧ ∃ a, s.Means v a ∧ d' = s.set d a := by
      constructor
      · rintro (⟨t, ht, htname, hget, hmeans⟩ | ⟨hnames, -⟩)
        · obtain rfl := h.eq_of_name ht hs (htname.trans hname'.symm)
          exact ⟨hget, hmeans⟩
        · exact absurd hname' (hnames s hs)
      · rintro ⟨hget, hmeans⟩
        exact .inl ⟨s, hs, hname', hget, hmeans⟩
    rw [hfills]
    simp only [hfits.isSet d]
    cases hget : s.get d with
    | some a => simp
    | none => simpa using hfits.reads d v hspaces hv hrest d' r

/-- What the members under a slot's name make of it: nothing, or the value of the only one of
    them. -/
def Slot.Filled (s : Slot δ) (d : δ) (ms : List (String × Json)) (d' : δ) : Prop :=
  (valuesOf s.name ms = [] ∧ s.get d' = s.get d) ∨
    (s.get d = none ∧ ∃ v a, valuesOf s.name ms = [v] ∧ s.Means v a ∧ s.get d' = some a)

/-- **Members fill a draft when they fill each slot at most once.**  Their order does not matter,
    nor what stands under other names. -/
theorem Schema.Laws.collects_iff {schema : Schema δ ρ} {slots : List (Slot δ)}
    (h : schema.Laws slots) (ms : List (String × Json)) (d d' : δ) :
    Collects (FillsSlot slots) d ms d' ↔ ∀ s ∈ slots, s.Filled d ms d' := by
  induction ms generalizing d with
  | nil =>
    constructor
    · rintro rfl s hs
      exact .inl ⟨rfl, rfl⟩
    · intro hfilled
      apply h.ext
      intro s hs
      rcases hfilled s hs with ⟨-, hget⟩ | ⟨-, v, a, hnil, -⟩
      · exact hget
      · cases hnil
  | cons m ms ih =>
    obtain ⟨name, v⟩ := m
    constructor
    · rintro ⟨next, hnext, hcollects⟩ t ht
      have hrest := (ih next).mp hcollects t ht
      rcases hnext with ⟨s, hs, rfl, hget, a, hmeans, rfl⟩ | ⟨hnames, rfl⟩
      · by_cases hname : t.name = s.name
        · -- the slot is filled here, and by no later member
          obtain rfl := h.eq_of_name ht hs hname
          rcases hrest with ⟨hnil, hget'⟩ | ⟨hget', -⟩
          · refine .inr ⟨hget, v, a, ?_, hmeans, hget'.trans (h.get_set t ht d a)⟩
            rw [valuesOf_cons_self, hnil]
          · rw [h.get_set t ht] at hget'
            cases hget'
        · -- what fills one slot is not seen in another
          unfold Slot.Filled at hrest ⊢
          rwa [valuesOf_cons_of_ne (Ne.symm hname), ← h.get_set_of_ne s hs t ht hname d a]
      · unfold Slot.Filled at hrest ⊢
        rwa [valuesOf_cons_of_ne (Ne.symm (hnames t ht))]
    · intro hfilled
      by_cases hname : ∃ s ∈ slots, s.name = name
      · obtain ⟨s, hs, rfl⟩ := hname
        -- the first value under the name is the only one, and this member has it
        have hself := hfilled s hs
        rw [Slot.Filled, valuesOf_cons_self] at hself
        rcases hself with ⟨hcons, -⟩ | ⟨hget, w, a, hvalues, hmeans, hget'⟩
        · cases hcons
        · obtain ⟨rfl, hnil⟩ := List.cons.inj hvalues
          refine ⟨s.set d a, .inl ⟨s, hs, rfl, hget, a, hmeans, rfl⟩, (ih _).mpr ?_⟩
          intro t ht
          by_cases hname : t.name = s.name
          · obtain rfl := h.eq_of_name ht hs hname
            exact .inl ⟨hnil, hget'.trans (h.get_set t ht d a).symm⟩
          · have hother := hfilled t ht
            unfold Slot.Filled at hother ⊢
            rwa [valuesOf_cons_of_ne (Ne.symm hname), ← h.get_set_of_ne s hs t ht hname d a]
              at hother
      · -- no slot has the name, so the draft stays as it is
        have hnames : ∀ s ∈ slots, s.name ≠ name := fun s hs heq => hname ⟨s, hs, heq⟩
        refine ⟨d, .inr ⟨hnames, rfl⟩, (ih d).mpr ?_⟩
        intro t ht
        have hother := hfilled t ht
        unfold Slot.Filled at hother ⊢
        rwa [valuesOf_cons_of_ne (Ne.symm (hnames t ht))] at hother

/-! ### Lists -/

/-- The items of a list fill the slots in order, and some items may be left. -/
def Takes : List (Slot δ) → δ → List Json → δ → List Json → Prop
  | [], d, vs, d', left => d' = d ∧ left = vs
  | s :: ss, d, v :: vs, d', left => ∃ a, s.Means v a ∧ Takes ss (s.set d a) vs d' left
  | s :: ss, d, [], d', left => s.mayEnd ∧ Takes ss d [] d' left

/-- The fields read what the slots take, up to the items that are left. -/
theorem Takes.of_readFields {schema : Schema δ ρ} {fs : List (Field δ)} {ss : List (Slot δ)}
    (hfits : List.Forall₂ Field.Fits fs ss) {count : Nat} {d d' : δ} {vs : List Json}
    {text rest cs : List Char} (hvs : ItemsSpelled (count == 0) vs text rest)
    (hok : schema.readFields d count fs text = .ok (d', cs)) :
    ∃ left first, Takes ss d vs d' left ∧ ItemsSpelled first left cs rest := by
  induction hfits generalizing count d vs text with
  | nil =>
    obtain ⟨rfl, rfl⟩ := Prod.mk.inj (Except.ok.inj hok)
    exact ⟨vs, _, ⟨rfl, rfl⟩, hvs⟩
  | @cons f s fs ss hf _ ih =>
    rw [Schema.readFields] at hok
    cases hvs with
    | done h =>
      simp only [hasItem_done h, ok_bind, Bool.false_eq_true, if_false] at hok
      -- the list ends in front of this field, which may then be absent
      split at hok
      · rename_i hend
        obtain ⟨left, first, htakes, hleft⟩ := ih (.done .none) hok
        exact ⟨left, first, ⟨hf.mayEnd ▸ hend, htakes⟩, hleft⟩
      · cases hok
    | @item _ _ vs _ _ _ t _ hcomma hspaces hvalue h =>
      simp only [hasItem_item hcomma hspaces hvalue, ok_bind, if_true] at hok
      obtain ⟨⟨next, t'⟩, hnext, hok⟩ := bind_eq_ok_iff.mp hok
      obtain ⟨⟨a, hmeans, rfl⟩, rfl⟩ := (hf.reads d _ .none hvalue h.ends next t').mp hnext
      have h' : ItemsSpelled (count + 1 == 0) vs t' rest := h
      obtain ⟨left, first, htakes, hleft⟩ := ih h' hok
      exact ⟨left, first, ⟨a, hmeans, htakes⟩, hleft⟩

/-- What the slots take the fields read, up to the items that are left. -/
theorem Takes.readFields_eq {schema : Schema δ ρ} {fs : List (Field δ)} {ss : List (Slot δ)}
    (hfits : List.Forall₂ Field.Fits fs ss) {count : Nat} {d d' : δ} {vs left : List Json}
    {text rest : List Char} (hvs : ItemsSpelled (count == 0) vs text rest)
    (htakes : Takes ss d vs d' left) :
    ∃ cs first, schema.readFields d count fs text = .ok (d', cs) ∧
      ItemsSpelled first left cs rest := by
  induction hfits generalizing count d vs text with
  | nil =>
    obtain ⟨rfl, rfl⟩ := htakes
    exact ⟨text, _, rfl, hvs⟩
  | @cons f s fs ss hf _ ih =>
    rw [Schema.readFields]
    cases hvs with
    | done h =>
      obtain ⟨hend, htakes⟩ := htakes
      simp only [hasItem_done h, ok_bind, Bool.false_eq_true, if_false, hf.mayEnd, hend, if_true]
      exact ih (.done .none) htakes
    | item hcomma hspaces hvalue h =>
      obtain ⟨a, hmeans, htakes⟩ := htakes
      simp only [hasItem_item hcomma hspaces hvalue, ok_bind, if_true]
      rw [(hf.reads d _ .none hvalue h.ends _ _).mpr ⟨⟨a, hmeans, rfl⟩, rfl⟩]
      exact ih h htakes

/-- A list ends where no items are left. -/
theorem readListEnd_iff {first : Bool} {left : List Json} {text rest : List Char}
    (h : ItemsSpelled first left text rest) (r : List Char) :
    readListEnd text = .ok ((), r) ↔ left = [] ∧ r = rest := by
  cases h with
  | done h =>
    rw [readListEnd, h.skip_eq (by decide)]
    simp [eq_comm]
  | item hcomma hspaces hvalue h =>
    cases hcomma with
    | absent =>
      obtain ⟨c, cs, rfl, hspace, hcomma, hend, -⟩ := hvalue.head
      rw [readListEnd, hspaces.skip_eq hspace]
      simp [hcomma, hend]
    | present h =>
      rw [readListEnd, h.skip_eq (by decide)]
      simp

/-- **Items fill a draft as members under the names of the fields do**, when there are neither too
    many of them nor too few. -/
theorem Schema.Laws.takes_iff {schema : Schema δ ρ} {slots : List (Slot δ)} (h : schema.Laws slots)
    {ss : List (Slot δ)} (hss : ss ⊆ slots) (hnodup : (ss.map Slot.name).Nodup) {d d' : δ}
    (hempty : ∀ s ∈ ss, s.get d = none) (vs : List Json) :
    Takes ss d vs d' [] ↔
      vs.length ≤ ss.length ∧ (∀ s ∈ ss.drop vs.length, s.mayEnd) ∧
        Collects (FillsSlot slots) d ((ss.map Slot.name).zip vs) d' := by
  induction ss generalizing d vs with
  | nil =>
    cases vs with
    | nil => simp [Takes, Collects]
    | cons v vs => simp [Takes]
  | cons s ss ih =>
    have hs := hss List.mem_cons_self
    have hss' : ss ⊆ slots := fun t ht => hss (List.mem_cons_of_mem s ht)
    rw [List.map_cons, List.nodup_cons] at hnodup
    cases vs with
    | nil =>
      rw [Takes, ih hss' hnodup.2 (fun t ht => hempty t (List.mem_cons_of_mem s ht))]
      simp [Collects, and_assoc]
    | cons v vs =>
      -- the slot is empty, since its name is not that of an earlier one
      have hfills : ∀ next, FillsSlot slots d s.name v next ↔
          ∃ a, s.Means v a ∧ next = s.set d a := by
        intro next
        constructor
        · rintro (⟨t, ht, hname, -, hmeans⟩ | ⟨hnames, -⟩)
          · obtain rfl := h.eq_of_name ht hs hname
            exact hmeans
          · exact absurd rfl (hnames s hs)
        · intro hmeans
          exact .inl ⟨s, hs, rfl, hempty s List.mem_cons_self, hmeans⟩
      have hnext : ∀ a, Takes ss (s.set d a) vs d' [] ↔ vs.length ≤ ss.length ∧
          (∀ t ∈ ss.drop vs.length, t.mayEnd) ∧
            Collects (FillsSlot slots) (s.set d a) ((ss.map Slot.name).zip vs) d' := by
        intro a
        apply ih hss' hnodup.2
        intro t ht
        have hne : t.name ≠ s.name := by
          intro heq
          exact hnodup.1 (heq ▸ List.mem_map_of_mem ht)
        rw [h.get_set_of_ne s hs t (hss' ht) hne]
        exact hempty t (List.mem_cons_of_mem s ht)
      rw [List.map_cons, List.zip_cons_cons, List.length_cons, List.length_cons,
        Nat.add_le_add_iff_right, List.drop_succ_cons, Takes]
      constructor
      · rintro ⟨a, hmeans, htakes⟩
        obtain ⟨hle, hend, hcollects⟩ := (hnext a).mp htakes
        exact ⟨hle, hend, _, (hfills _).mpr ⟨a, hmeans, rfl⟩, hcollects⟩
      · rintro ⟨hle, hend, next, hfill, hcollects⟩
        obtain ⟨a, hmeans, rfl⟩ := (hfills next).mp hfill
        exact ⟨a, hmeans, (hnext a).mpr ⟨hle, hend, hcollects⟩⟩

/-! ### Records -/

/-- What the members of a record make of a slot: it stays empty when its name does not occur, and
    otherwise its name occurs once. -/
def Slot.Holds (s : Slot δ) (ms : List (String × Json)) (d : δ) : Prop :=
  (valuesOf s.name ms = [] ∧ s.get d = none) ∨
    ∃ v a, valuesOf s.name ms = [v] ∧ s.Means v a ∧ s.get d = some a

/-- An empty slot is filled with what a value of its field holds. -/
theorem Slot.filled_iff_holds {s : Slot δ} {d : δ} (hget : s.get d = none)
    (ms : List (String × Json)) (d' : δ) : s.Filled d ms d' ↔ s.Holds ms d' := by
  simp [Slot.Filled, Slot.Holds, hget]

/-- The least number of items of a list: every field after them may be absent. -/
def IsLeast (slots : List (Slot δ)) (least : Nat) : Prop :=
  ∀ n ≤ slots.length, (∀ s ∈ slots.drop n, s.mayEnd) ↔ least ≤ n

section Laws

variable {schema : Schema δ ρ} {slots : List (Slot δ)} (h : schema.Laws slots)

include h

/-- From an empty draft, members lead to the draft that holds them. -/
theorem Schema.Laws.collects_empty_iff (ms : List (String × Json)) (d : δ) :
    Collects (FillsSlot slots) schema.empty ms d ↔ ∀ s ∈ slots, s.Holds ms d := by
  rw [h.collects_iff]
  exact forall₂_congr fun s hs => Slot.filled_iff_holds (h.empty s hs) ms d

/-- From an empty draft, items lead to the draft that holds them under the names of the fields. -/
theorem Schema.Laws.takes_empty_iff {least : Nat} (hleast : IsLeast slots least) (vs : List Json)
    (d : δ) : Takes slots schema.empty vs d [] ↔
      ∃ ms, recordMembers? (slots.map Slot.name) least (.array vs) = some ms ∧
        ∀ s ∈ slots, s.Holds ms d := by
  rw [h.takes_iff (List.Subset.refl slots) h.nodup h.empty, h.collects_empty_iff, recordMembers?,
    List.length_map]
  constructor
  · rintro ⟨hle, hend, hslots⟩
    have hmany := (hleast _ hle).mp hend
    exact ⟨_, if_pos ⟨hmany, hle⟩, hslots⟩
  · rintro ⟨ms, heq, hslots⟩
    split at heq
    · rename_i hlength
      obtain rfl := Option.some.inj heq
      exact ⟨hlength.2, (hleast _ hlength.2).mpr hlength.1, hslots⟩
    · cases heq

/-- **A record is read in either form**, when its members fill each slot at most once and its draft
    can be finished. -/
theorem Schema.Laws.reads {least : Nat} (hleast : IsLeast slots least) :
    Reads schema.read fun v r => ∃ ms d, recordMembers? (slots.map Slot.name) least v = some ms ∧
      (∀ s ∈ slots, s.Holds ms d) ∧ schema.finish d = .ok r := by
  intro v text start rest hspaces hv hrest r t
  obtain ⟨c, cs, rfl, -⟩ := hv.head
  rw [Schema.read, hv.skipSpaces_eq hspaces]
  by_cases hobject : c = '{'
  · subst hobject
    obtain ⟨ms, rfl, hms⟩ := hv.of_object
    simp only [if_true, recordMembers?, Option.some.injEq]
    -- the members of an object fill the slots in any order
    have hmembers := readMembers_iff h.readsMembers hms schema.empty
    constructor
    · intro hok
      obtain ⟨⟨d, t'⟩, hread, hok⟩ := bind_eq_ok_iff.mp hok
      obtain ⟨r', hfinish, hok⟩ := bind_eq_ok_iff.mp hok
      obtain ⟨rfl, rfl⟩ := Prod.mk.inj (Except.ok.inj hok)
      obtain ⟨hcollects, rfl⟩ := (hmembers d t').mp hread
      exact ⟨⟨ms, d, rfl, (h.collects_empty_iff ms d).mp hcollects, hfinish⟩, rfl⟩
    · rintro ⟨⟨ms', d, rfl, hslots, hfinish⟩, rfl⟩
      rw [(hmembers d t).mpr ⟨(h.collects_empty_iff ms d).mpr hslots, rfl⟩, ok_bind, hfinish,
        ok_bind]
      rfl
  by_cases hlist : c = '['
  · subst hlist
    obtain ⟨vs, rfl, hvs⟩ := hv.of_list
    have htakes := h.takes_empty_iff hleast vs
    -- the reader counts the fields it has read, and has read none so far
    have hvs' : ItemsSpelled ((0 : Nat) == 0) vs cs rest := hvs
    simp only [if_neg hobject, if_true]
    constructor
    · intro hok
      obtain ⟨⟨d, t'⟩, hread, hok⟩ := bind_eq_ok_iff.mp hok
      obtain ⟨r', hfinish, hok⟩ := bind_eq_ok_iff.mp hok
      obtain ⟨⟨⟨⟩, t''⟩, hend, hok⟩ := bind_eq_ok_iff.mp hok
      obtain ⟨rfl, rfl⟩ := Prod.mk.inj (Except.ok.inj hok)
      obtain ⟨left, first, htake, hleft⟩ := Takes.of_readFields h.fits hvs' hread
      obtain ⟨rfl, rfl⟩ := (readListEnd_iff hleft t'').mp hend
      obtain ⟨ms, hms, hslots⟩ := (htakes d).mp htake
      exact ⟨⟨ms, d, hms, hslots, hfinish⟩, rfl⟩
    · rintro ⟨⟨ms, d, hms, hslots, hfinish⟩, rfl⟩
      obtain ⟨t', first, hread, hleft⟩ :=
        Takes.readFields_eq h.fits hvs' ((htakes d).mpr ⟨ms, hms, hslots⟩)
      rw [hread, ok_bind]
      simp only [hfinish, ok_bind, (readListEnd_iff hleft t).mpr ⟨rfl, rfl⟩]
      rfl
  · -- no other value has members
    have hother : recordMembers? (slots.map Slot.name) least v = none := by
      generalize hstart : c :: cs = start at hv
      cases hv with
      | array _ =>
        cases hstart
        exact absurd rfl hlist
      | object _ =>
        cases hstart
        exact absurd rfl hobject
      | _ => rfl
    simp [hobject, hlist, hother]

end Laws

end MarketFeed.Json
