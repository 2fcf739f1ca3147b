import MarketFeed.Proofs.Text.Spelling
import MarketFeed.Vocabulary

namespace MarketFeed

/-!
# The names of a vocabulary

A name is read just when it spells the code of a term, or another of its names.

* `Vocabulary.names` — every name with the term it stands for.
* `Vocabulary.Lawful` — names tell terms apart, and are written as they are compared.
* `Vocabulary.code_inj`, `Vocabulary.names_code` — codes tell terms apart, and name their terms.
* `Vocabulary.parse?_eq_some_iff` — what names are read as.
* `Vocabulary.Accepts`, `Tagged.FallsBack` — what reading amounts to, with an error and with a
  fallback for all other texts.
* `Vocabulary.accepts_spellings` — the three vocabularies read just the spellings of their names.
-/

open Text

namespace Vocabulary

/-! ### Names -/

section

variable (α : Type) [Vocabulary α]

/-- Every name, with the term it stands for. -/
def names : List (String × α) := aliases ++ all.map fun a => (code a, a)

/-- No two terms have a name in common, and all names are words. -/
class Lawful : Prop where
  mem_all : ∀ a : α, a ∈ all (α := α)
  eq_of_name : ∀ entry ∈ names α, ∀ entry' ∈ names α, entry.1 = entry'.1 → entry.2 = entry'.2
  isWord : ∀ entry ∈ names α, IsWord entry.1

end

instance : Lawful MarketType where
  mem_all := MarketType.mem_all
  eq_of_name := by decide +kernel
  isWord := by decide +kernel

instance : Lawful MessageType where
  mem_all := MessageType.mem_all
  eq_of_name := by decide +kernel
  isWord := by decide +kernel

instance : Lawful Exchange where
  mem_all := Exchange.mem_all
  eq_of_name := by decide +kernel
  isWord := by decide +kernel

/-! ### Looking names up -/

section

variable {α : Type} [Vocabulary α]

/-- A code is looked up as any other name. -/
theorem ofCode?_eq_lookup (text : String) :
    ofCode? text = ((all (α := α)).map fun a => (code a, a)).lookup text := by
  unfold ofCode?
  induction all (α := α) with
  | nil => rfl
  | cons a as ih => rw [List.map_cons, List.lookup_cons, List.find?_cons, ih, BEq.comm]

/-- What is compared is looked up among all names. -/
theorem parse?_eq_lookup (text : String) :
    parse? (α := α) text = (names α).lookup (normalize text) := by
  rw [parse?, ofCode?_eq_lookup, names, List.lookup_append]

variable [Lawful α] {text name : String} {a b : α}

/-- The names of a term are its code and its aliases. -/
theorem mem_names_iff : (name, a) ∈ names α ↔ (name, a) ∈ aliases (α := α) ∨ name = code a := by
  rw [names, List.mem_append, List.mem_map]
  constructor
  · rintro (h | ⟨b, -, hb⟩)
    · exact .inl h
    · obtain ⟨rfl, rfl⟩ := Prod.mk.inj hb
      exact .inr rfl
  · rintro (h | rfl)
    · exact .inl h
    · exact .inr ⟨a, Lawful.mem_all a, rfl⟩

/-- A code is a name of its term. -/
theorem code_mem_names (a : α) : (code a, a) ∈ names α := mem_names_iff.mpr (.inr rfl)

/-- No two terms have the same code. -/
theorem code_inj (h : code a = code b) : a = b :=
  Lawful.eq_of_name _ (code_mem_names a) _ (code_mem_names b) h

/-- The text spells a name of the term. -/
def Names (text : String) (a : α) : Prop := ∃ name, (name, a) ∈ names α ∧ Spells text name

/-- A term is read from its code. -/
theorem names_code (a : α) : Names (code a) a := ⟨code a, code_mem_names a, .refl _⟩

/-- A text is read as the term whose name it spells. -/
theorem parse?_eq_some_iff : parse? text = some a ↔ Names text a := by
  have hunique : ∀ name (a b : α), (name, a) ∈ names α → (name, b) ∈ names α → a = b :=
    fun name a b ha hb => Lawful.eq_of_name _ ha _ hb rfl
  rw [parse?_eq_lookup, lookup_eq_some_iff_mem hunique]
  constructor
  · intro h
    exact ⟨_, h, (Lawful.isWord _ h).spells_iff.mpr rfl⟩
  · rintro ⟨name, h, hspells⟩
    rw [(Lawful.isWord _ h).spells_iff] at hspells
    rwa [normalize, hspells]

/-- A text is read as a term just when it names the term. -/
theorem parse_eq_ok_iff : parse text = .ok a ↔ Names text a := by
  rw [← parse?_eq_some_iff, parse]
  cases parse? (α := α) text <;> simp

/-- A text that names nothing is read as nothing. -/
theorem parse?_eq_none (h : ∀ a : α, ¬ Names text a) : parse? (α := α) text = none :=
  Option.eq_none_iff_forall_ne_some.mpr fun a ha => h a (parse?_eq_some_iff.mp ha)

end

end Vocabulary

/-! ### What reading amounts to -/

/-- Reading takes the texts that are `Named` and no others.  Those name one term each; the others
    are refused with the text as it was given.  A blank inside is not passed over, and a letter of
    another script is not taken for an ASCII one. -/
structure Vocabulary.Accepts (α : Type) [Vocabulary α] (Named : String → α → Prop) : Prop where
  ok_iff (text : String) (a : α) : parse text = .ok a ↔ Named text a
  unique (text : String) (a b : α) (ha : Named text a) (hb : Named text b) : a = b
  refused (text : String) (h : ∀ a, ¬ Named text a) :
    parse (α := α) text = .error (.unknownName (kind α) text)
  not_blank_inside (front back : List Char) (c : Char) (hc : isBlank c) (hfront : ¬ AllBlank front)
    (hback : ¬ AllBlank back) (a : α) : ¬ Named (String.ofList (front ++ c :: back)) a
  not_foreign (text : String) (c : Char) (hmem : c ∈ text.toList) (hc : ¬ isBlank c)
    (hcode : 0x80 ≤ c.toNat) (a : α) : ¬ Named text a

/-- Decoding never stops: texts that are `Named` are read without a word, and of each other text one
    event says that it is taken for `standIn`. -/
structure Tagged.FallsBack (α : Type) [Tagged α] (Named : String → α → Prop) (standIn : α) :
    Prop where
  named (text : String) (a : α) (h : Named text a) : parseOrFallback text = (a, [])
  other (text : String) (h : ∀ a, ¬ Named text a) : ∃ event : Log.Event,
    parseOrFallback text = (standIn, [event]) ∧ event.level = .debug ∧
      event.message = "unrecognized " ++ (Vocabulary.kind α).noun ++ " code '" ++ text ++ "', using "
        ++ Vocabulary.code standIn

section

variable {α : Type}

/-- A vocabulary with lawful names reads just their spellings. -/
theorem Vocabulary.accepts_names [Vocabulary α] [Lawful α] : Accepts α Names where
  ok_iff text a := parse_eq_ok_iff
  unique text a b ha hb := by
    rw [← parse?_eq_some_iff] at ha hb
    exact Option.some.inj (ha.symm.trans hb)
  refused text h := parse_eq_error (parse?_eq_none h)
  not_blank_inside front back c hc hfront hback a := by
    rintro ⟨name, hname, hspells⟩
    rcases hspells.allBlank_of_isBlank (Lawful.isWord _ hname) String.toList_ofList hc with h | h
    · exact hfront h
    · exact hback h
  not_foreign text c hmem hc hcode a := by
    rintro ⟨name, hname, hspells⟩
    rcases hspells.isBlank_or_lt (Lawful.isWord _ hname) c hmem with h | h
    · exact hc h
    · omega

/-- What names nothing becomes the fallback. -/
theorem Tagged.fallsBack_names [Tagged α] [Vocabulary.Lawful α] :
    FallsBack α Vocabulary.Names (fallback (α := α)) where
  named text a h := by
    rw [parseOrFallback, Vocabulary.parse?_eq_some_iff.mpr h]
  other text h := by
    refine ⟨unrecognized α text, ?_, rfl, rfl⟩
    rw [parseOrFallback, Vocabulary.parse?_eq_none h]

end

/-- Without other names, a term is named by its code alone. -/
theorem Vocabulary.names_eq_of_aliases {α : Type} [Vocabulary α] [Lawful α]
    (h : aliases (α := α) = []) :
    (Names : String → α → Prop) = fun text a => Spells text (code a) := by
  funext text a
  simp [Names, mem_names_iff, h]

/-- An exchange is named by its code, and one of them by a second name. -/
theorem Exchange.names_eq :
    (Vocabulary.Names : String → Exchange → Prop) =
      fun text e => Spells text e.code ∨ (e = .mexc ∧ Spells text "mxc") := by
  funext text e
  have hnames : ∀ name, (name, e) ∈ Vocabulary.names Exchange ↔
      (name = "mxc" ∧ e = .mexc) ∨ name = e.code := by
    intro name
    rw [Vocabulary.mem_names_iff]
    show (name, e) ∈ [("mxc", Exchange.mexc)] ∨ name = e.code ↔ _
    rw [List.mem_singleton, Prod.mk.injEq]
  simp only [Vocabulary.Names, hnames, eq_iff_iff]
  constructor
  · rintro ⟨name, ⟨rfl, rfl⟩ | rfl, hspells⟩
    · exact .inr ⟨rfl, hspells⟩
    · exact .inl hspells
  · rintro (hspells | ⟨rfl, hspells⟩)
    · exact ⟨_, .inr rfl, hspells⟩
    · exact ⟨_, .inl ⟨rfl, rfl⟩, hspells⟩

/-- **The three vocabularies read just the spellings of their names**: the code of a term in any
    ASCII case, with blanks around it, and `mxc` for MEXC.  Market types and message types are read
    that way also where decoding must not stop. -/
theorem Vocabulary.accepts_spellings :
    Accepts MarketType (fun text m => Spells text m.code) ∧
    Accepts MessageType (fun text m => Spells text m.code) ∧
    Accepts Exchange (fun text e => Spells text e.code ∨ (e = .mexc ∧ Spells text "mxc")) ∧
    Tagged.FallsBack MarketType (fun text m => Spells text m.code) .unknown ∧
    Tagged.FallsBack MessageType (fun text m => Spells text m.code) .other := by
  have hmarket : Names = fun text (m : MarketType) => Spells text m.code := names_eq_of_aliases rfl
  have hmessage : Names = fun text (m : MessageType) => Spells text m.code :=
    names_eq_of_aliases rfl
  rw [← hmarket, ← hmessage, ← Exchange.names_eq]
  exact ⟨accepts_names, accepts_names, accepts_names, Tagged.fallsBack_names,
    Tagged.fallsBack_names⟩

/-- The sign of the kelvin is no letter of Kraken. -/
example : Vocabulary.parse? (α := Exchange) "\u212Araken" = none := by decide +kernel

end MarketFeed
