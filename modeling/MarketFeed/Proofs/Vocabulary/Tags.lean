import MarketFeed.Proofs.Vocabulary.Encoding

namespace MarketFeed

/-!
# Stored terms

A term is stored as a byte, as an archive that ends in the byte, as its code, or as JSON.  Four
tables are behind this: the list of all terms, the bytes, the codes, and the names in JSON.

* `Tagged.Lawful` — a term's byte is its place in the list of all terms.
* `Tagged.ofTag_eq_ok_iff`, `Tagged.unarchive?_eq_some_iff` — what bytes and archives are read as.
* `Tagged.Source`, `Tagged.Source.Gives` — what a term is read from, and the term.
* `Tagged.Agrees`, `Tagged.agrees_of_lawful` — the four forms agree on every input.
* `Tagged.agrees` — so they do for market types and for message types.
-/

open Vocabulary

namespace Tagged

/-- The terms are listed once each, at the places that their bytes tell. -/
class Lawful (α : Type) [Tagged α] : Prop extends Vocabulary.Lawful α where
  nodup : (all (α := α)).Nodup
  all_tag : ∀ a : α, (all (α := α))[(tag a).toNat]? = some a

instance : Lawful MarketType where
  nodup := by decide
  all_tag m := by cases m <;> rfl

instance : Lawful MessageType where
  nodup := by decide
  all_tag m := by cases m <;> rfl

section

variable {α : Type} [Tagged α] [Lawful α] {value : UInt8} {a b : α}

/-! ### Bytes -/

/-- The terms stand at the places that their bytes tell, and nowhere else. -/
theorem all_getElem?_iff : (all (α := α))[value.toNat]? = some a ↔ tag a = value := by
  constructor
  · intro h
    have hlt := (List.getElem?_eq_some_iff.mp (Lawful.all_tag a)).1
    have hplace : (tag a).toNat = value.toNat :=
      (List.getElem?_inj hlt Lawful.nodup).mp ((Lawful.all_tag a).trans h.symm)
    exact UInt8.toNat_inj.mp hplace
  · rintro rfl
    exact Lawful.all_tag a

/-- No two terms have the same byte. -/
theorem tag_inj : tag a = tag b ↔ a = b := by
  constructor
  · intro h
    have hb : (all (α := α))[(tag a).toNat]? = some b := all_getElem?_iff.mpr h.symm
    exact Option.some.inj ((Lawful.all_tag a).symm.trans hb)
  · rintro rfl
    rfl

/-- A byte is read as the term that has it. -/
theorem ofTag_eq_ok_iff : ofTag value = .ok a ↔ tag a = value := by
  rw [← all_getElem?_iff, ofTag]
  cases (all (α := α))[value.toNat]? <;> simp

/-- A term is found by its byte. -/
theorem find?_tag_iff :
    (all (α := α)).find? (fun a => tag a == value) = some a ↔ tag a = value := by
  have hfound : ∀ b : α,
      (all (α := α)).find? (fun a => tag a == value) = some b → tag b = value := by
    intro b h
    have htag := List.find?_some h
    exact beq_iff_eq.mp htag
  constructor
  · exact hfound a
  · intro h
    cases hfind : (all (α := α)).find? (fun a => tag a == value) with
    | none =>
      have hother := List.find?_eq_none.mp hfind a (Vocabulary.Lawful.mem_all a)
      exact absurd (beq_iff_eq.mpr h) hother
    | some b => rw [tag_inj.mp ((hfound b hfind).trans h.symm)]

/-- An archive is read as the term whose byte is its last. -/
theorem unarchive?_eq_some_iff {bytes : List UInt8} :
    unarchive? bytes = some a ↔ bytes.getLast? = some (tag a) := by
  simp only [unarchive?, Option.bind_eq_some_iff, find?_tag_iff]
  constructor
  · rintro ⟨last, hlast, rfl⟩
    exact hlast
  · intro h
    exact ⟨_, h, rfl⟩

/-- No two terms have the same archive. -/
theorem archive_inj : archive a = archive b ↔ a = b := by
  rw [archive, archive, List.singleton_inj, tag_inj]

end

/-! ### Forms of a term -/

/-- What a term is read from. -/
inductive Source
  | byte (value : UInt8)
  | archive (bytes : List UInt8)
  | name (text : String)
  | json (text : String)

/-- The source is read as the term. -/
def Source.Gives {α : Type} [Tagged α] [Json.Enumeration α] : Source → α → Prop
  | .byte value, a => ofTag value = .ok a
  | .archive bytes, a => unarchive? bytes = some a
  | .name text, a => parse text = .ok a
  | .json text, a => Json.readText (Json.readTerm α) text = .ok a

/-- A source is read as one term at most. -/
theorem Source.Gives.unique {α : Type} [Tagged α] [Json.Enumeration α] {source : Source} {a b : α}
    (ha : source.Gives a) (hb : source.Gives b) : a = b := by
  cases source with
  | archive bytes => exact Option.some.inj (ha.symm.trans hb)
  | _ => exact Except.ok.inj (ha.symm.trans hb)

/-- The stored forms of terms agree.  An archive is read as its last byte is, which is the byte that
    is stored again.  Each form of a term is read as the term.  A source gives one term, and no other
    term is stored in any form as this one is. -/
structure Agrees (α : Type) [Tagged α] [Json.Enumeration α] : Prop where
  archive_iff (bytes : List UInt8) (a : α) :
    unarchive? bytes = some a ↔ ∃ value, bytes.getLast? = some value ∧ ofTag value = .ok a
  last_byte (bytes : List UInt8) (a : α) (h : unarchive? bytes = some a) :
    bytes.getLast? = some (tag a)
  decodes (a : α) : Source.Gives (.byte (tag a)) a ∧ Source.Gives (.archive (archive a)) a ∧
    Source.Gives (.name (code a)) a ∧ Source.Gives (.json (Json.Enumeration.encode a)) a
  encodes (source : Source) (a b : α) (h : source.Gives a) :
    (source.Gives b ↔ a = b) ∧ (tag a = tag b ↔ a = b) ∧ (archive a = archive b ↔ a = b) ∧
      (code a = code b ↔ a = b) ∧
      (Json.Enumeration.encode a = Json.Enumeration.encode b ↔ a = b)

/-- Where the bytes of terms are their places and their names in JSON are their codes, all forms
    agree. -/
theorem agrees_of_lawful {α : Type} [Tagged α] [Lawful α] [Json.Enumeration α]
    [Json.Enumeration.Coded α] : Agrees α where
  archive_iff bytes a := by
    simp only [unarchive?_eq_some_iff, ofTag_eq_ok_iff]
    constructor
    · intro h
      exact ⟨_, h, rfl⟩
    · rintro ⟨value, h, rfl⟩
      exact h
  last_byte bytes a := unarchive?_eq_some_iff.mp
  decodes a := ⟨ofTag_eq_ok_iff.mpr rfl, unarchive?_eq_some_iff.mpr rfl,
    parse_eq_ok_iff.mpr (names_code a), Json.readText_encode a⟩
  encodes source a b h := ⟨⟨h.unique, fun heq => heq ▸ h⟩, tag_inj, archive_inj,
    ⟨code_inj, congrArg code⟩, Json.encode_inj⟩

/-- **The stored forms of market types and of message types agree**, whatever bytes and texts they
    are read from. -/
theorem agrees : Agrees MarketType ∧ Agrees MessageType := ⟨agrees_of_lawful, agrees_of_lawful⟩

/-- A snapshot in an archive with bytes before its own is stored apart from a top-K book. -/
theorem agrees_l2Snapshot :
    ofTag 3 = .ok MessageType.l2Snapshot ∧
    unarchive? [200, 3] = some MessageType.l2Snapshot ∧
    parse " L2_TopK" = .ok MessageType.l2TopK ∧
    archive MessageType.l2Snapshot ≠ archive MessageType.l2TopK ∧
    Json.Enumeration.encode MessageType.l2TopK = "\"l2_topk\"" ∧
    Json.Enumeration.encode MessageType.l2Snapshot ≠ Json.Enumeration.encode MessageType.l2TopK := by
  have hbyte : ofTag 3 = .ok MessageType.l2Snapshot := rfl
  have hname : parse " L2_TopK" = .ok MessageType.l2TopK := parse_eq_ok (by decide +kernel)
  have harchive := (agrees.2.archive_iff [200, 3] _).mpr ⟨3, rfl, hbyte⟩
  obtain ⟨-, -, harchives, -, hencodings⟩ :=
    agrees.2.encodes (.archive [200, 3]) .l2Snapshot .l2TopK harchive
  exact ⟨hbyte, harchive, hname, mt harchives.mp (by decide), by decide +kernel,
    mt hencodings.mp (by decide)⟩

end Tagged

end MarketFeed
