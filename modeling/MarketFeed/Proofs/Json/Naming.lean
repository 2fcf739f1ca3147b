import MarketFeed.Proofs.Json.Read
import MarketFeed.Proofs.Vocabulary.Names

namespace MarketFeed.Json

/-!
# Names in JSON and codes

The names that terms have in JSON are made of their identifiers; their codes are listed by hand.  The
two tables are about the same terms and agree everywhere.

* `Enumeration.Lawful` — every term has a name, and no two terms have the same.
* `reads_term` — a term is read from its name.
* `Enumeration.Coded` — the names of a vocabulary are its codes, as they are for market types,
  message types and exchanges.
* `IsCode`, `reads_code` — terms of such a vocabulary are read from their codes.
-/

variable {α : Type}

/-! ### Names -/

/-- Every term has a name, and no two terms have the same. -/
class Enumeration.Lawful (α : Type) [Enumeration α] : Prop where
  mem_terms : ∀ a : α, a ∈ Enumeration.terms (α := α)
  name_inj : ∀ a b : α, Enumeration.name a = Enumeration.name b → a = b

/-- A term is read from its name. -/
theorem reads_term [Enumeration α] [Enumeration.Lawful α] :
    Reads (readTerm α) fun v a => StandsFor v (Enumeration.name a) :=
  reads_names Enumeration.Lawful.mem_terms Enumeration.Lawful.name_inj

/-! ### Codes -/

/-- The names of a vocabulary are its codes. -/
class Enumeration.Coded (α : Type) [Vocabulary α] [Enumeration α] : Prop extends
    Enumeration.Lawful α where
  name_eq_code : ∀ a : α, Enumeration.name a = Vocabulary.code a

/-- The name of each market type is its code, that of `bvol` by a name of its own. -/
theorem MarketType.name_eq_code (m : MarketType) : Enumeration.name m = m.code := by
  cases m <;> decide +kernel

/-- The name of each message type is its code, those of `l2TopK` and `bbo` by names of their own. -/
theorem MessageType.name_eq_code (m : MessageType) : Enumeration.name m = m.code := by
  cases m <;> decide +kernel

/-- The name of each exchange is its code. -/
theorem Exchange.name_eq_code (e : Exchange) : Enumeration.name e = e.code := by
  cases e <;> decide +kernel

/-- The name of each collateral is its code. -/
theorem Collateral.name_eq_code (c : Collateral) : Enumeration.name c = c.code := by
  cases c <;> decide +kernel

/-- Names that are codes tell terms apart as codes do. -/
theorem name_inj_of_code [Vocabulary α] [Vocabulary.Lawful α] [Enumeration α]
    (hname : ∀ a : α, Enumeration.name a = Vocabulary.code a) (a b : α)
    (h : Enumeration.name a = Enumeration.name b) : a = b := by
  rw [hname, hname] at h
  exact Vocabulary.code_inj h

instance : Enumeration.Coded MarketType where
  mem_terms m := by cases m <;> decide
  name_inj := name_inj_of_code MarketType.name_eq_code
  name_eq_code := MarketType.name_eq_code

instance : Enumeration.Coded MessageType where
  mem_terms m := by cases m <;> decide
  name_inj := name_inj_of_code MessageType.name_eq_code
  name_eq_code := MessageType.name_eq_code

instance : Enumeration.Lawful Collateral where
  mem_terms c := by cases c <;> decide
  name_inj a b h := by
    rw [Collateral.name_eq_code, Collateral.name_eq_code] at h
    revert h
    cases a <;> cases b <;> decide

/-- The value is the exact code of a term: a string, or an object with the code as its only name
    and `null` as its value. -/
def IsCode [Vocabulary α] (v : Json) (a : α) : Prop :=
  v = .string (Vocabulary.code a) ∨ v = .object [(Vocabulary.code a, .null)]

/-- A term of a vocabulary is read from its code. -/
theorem reads_code [Vocabulary α] [Enumeration α] [Enumeration.Coded α] :
    Reads (readTerm α) (IsCode (α := α)) := by
  apply reads_term.congr
  intro v a
  rw [Enumeration.Coded.name_eq_code a]
  rfl

end MarketFeed.Json
