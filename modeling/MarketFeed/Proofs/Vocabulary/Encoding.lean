import MarketFeed.Proofs.Json.Naming
import MarketFeed.Proofs.Json.Position
import MarketFeed.Proofs.Plan.Load
import MarketFeed.Proofs.Vocabulary.Names

namespace MarketFeed

/-!
# Names as JSON

A term is stored under its name in JSON, which is its code.  Names are decoded as they are stored,
those of exchanges as they are read anywhere.

* `Json.HoldsName` — the texts that hold a name.
* `Json.HoldsName.readText_iff`, `Json.readText_exchange` — what is decoded from a name.
* `Json.readText_encode` — what is written for a term is decoded as the term.
* `Vocabulary.DecodesCodes` — decoding beside reading names, for a vocabulary stored as codes.
* `Vocabulary.RefusesAlike` — an exchange that is refused by both, and in which words.
* `Vocabulary.decode_agrees` — decoding and reading names agree, but for the words in which a name
  that ends in a position is refused.
-/

open Text

namespace Json

/-! ### Names in a text -/

/-- The text is a value that holds the name, with blanks and escapes wherever they may be. -/
def HoldsName (name text : String) : Prop := ∃ v, StandsFor v name ∧ Document v text.toList

variable {α : Type} {name text : String}

/-- A term is decoded from just its own name. -/
theorem HoldsName.readText_iff [Enumeration α] [Enumeration.Lawful α] (h : HoldsName name text)
    (a : α) : readText (readTerm α) text = .ok a ↔ name = Enumeration.name a := by
  obtain ⟨v, hv, hdocument⟩ := h
  rw [Json.readText_iff reads_term hdocument]
  constructor
  · intro hname
    exact hname.unique hv
  · rintro rfl
    exact hv

/-- Of a vocabulary, a term is decoded from just its own code. -/
theorem HoldsName.readText_code_iff [Vocabulary α] [Enumeration α] [Enumeration.Coded α]
    (h : HoldsName name text) (a : α) :
    readText (readTerm α) text = .ok a ↔ name = Vocabulary.code a := by
  rw [h.readText_iff, Enumeration.Coded.name_eq_code]

/-- An exchange is decoded as its name is read, or refused for the same reason. -/
theorem readText_exchange (h : Document (.string name) text.toList) :
    readText readExchange text = (Vocabulary.parse name).mapError .refused := by
  obtain ⟨start, rest, hstart, hv, hrest⟩ := h
  -- an exchange is read as a string first, and the string is all of the text
  have hname : readString text.toList = .ok (name, rest) :=
    (reads_string _ hstart hv hrest.ends_of_nil name rest).mpr ⟨rfl, rfl⟩
  have hend : (skipSpaces rest).isEmpty = true := by rw [hrest.skip_nil]; rfl
  simp only [readText, readExchange, hname, ok_bind]
  cases Vocabulary.parse (α := Exchange) name with
  | error e => rfl
  | ok e => simp [hend, Except.mapError]

/-! ### Terms that are written -/

/-- What is written for a name holds the name. -/
theorem document_quote (name : String) : Document (.string name) (quote name).toList :=
  Proper.document trivial

/-- So it does as a value that holds a name. -/
theorem holdsName_quote (name : String) : HoldsName name (quote name) :=
  ⟨_, .inl rfl, document_quote name⟩

/-- **What is written for a term is decoded as the term.** -/
theorem readText_encode [Enumeration α] [Enumeration.Lawful α] (a : α) :
    readText (readTerm α) (Enumeration.encode a) = .ok a :=
  ((holdsName_quote _).readText_iff a).mpr rfl

/-- No two terms are written alike. -/
theorem encode_inj [Enumeration α] [Enumeration.Lawful α] {a b : α} :
    Enumeration.encode a = Enumeration.encode b ↔ a = b := by
  constructor
  · intro h
    have hb := readText_encode b
    rw [← h, readText_encode] at hb
    exact Except.ok.inj hb
  · rintro rfl
    rfl

end Json

open Json

namespace Vocabulary

variable {α : Type} [Vocabulary α] [Lawful α]

/-! ### Decoding beside reading -/

/-- Of a name as JSON, decoding takes the exact codes.  It never disagrees with reading the name, and
    what is read but not decoded are the other spellings. -/
structure DecodesCodes (α : Type) [Vocabulary α] [Enumeration α] (name text : String) : Prop where
  ok_iff (a : α) : readText (readTerm α) text = .ok a ↔ name = code a
  parse_eq_ok (a : α) (h : readText (readTerm α) text = .ok a) : parse name = .ok a
  only_parse_iff (a : α) :
    (parse name = .ok a ∧ ∀ b, readText (readTerm α) text ≠ .ok b) ↔
      Spells name (code a) ∧ name ≠ code a

variable {name text : String}

/-- A vocabulary without further names is decoded from its codes. -/
theorem decodesCodes [Enumeration α] [Enumeration.Coded α] (haliases : aliases (α := α) = [])
    (h : HoldsName name text) : DecodesCodes α name text where
  ok_iff := h.readText_code_iff
  parse_eq_ok a ha := by
    obtain rfl := (h.readText_code_iff a).mp ha
    exact parse_eq_ok_iff.mpr (names_code a)
  only_parse_iff a := by
    have hnames : Names name a ↔ Spells name (code a) := by rw [names_eq_of_aliases haliases]
    simp only [parse_eq_ok_iff, hnames, Ne, h.readText_code_iff]
    constructor
    · rintro ⟨hspells, hother⟩
      exact ⟨hspells, hother a⟩
    · rintro ⟨hspells, hne⟩
      refine ⟨hspells, fun b hb => hne ?_⟩
      -- a code names its own term, so it spells no other code
      have hba : b = a := accepts_names.unique name b a (hb ▸ names_code b) (hnames.mpr hspells)
      rw [hb, hba]

/-- The text is refused as data, in the words of the error.  Where these end in a position, they are
    cut there, and the position follows anew unless its line is 0. -/
structure RefusesAlike (text : String) (err : Error) (fault : Fault) : Prop where
  decode_eq : readText readExchange text = .error fault
  category_eq : fault.category = .data
  message_eq (h : ∀ front p, ¬ Position.EndsIn err.message front p) : fault.message = err.message
  message_eq_of_endsIn (front : String) (p : Position) (h : Position.EndsIn err.message front p) :
    fault.message = if p.line = 0 then front else front ++ p.text

/-- A name that is not read as an exchange is refused in the same words. -/
theorem refusesAlike {err : Error} (h : Document (.string name) text.toList)
    (herr : parse (α := Exchange) name = .error err) : RefusesAlike text err (.refused err) where
  decode_eq := by rw [readText_exchange h, herr]; rfl
  category_eq := rfl
  message_eq := Position.restate_of_not_endsIn
  message_eq_of_endsIn _ _ := Position.restate_of_endsIn

/-- **Decoding and reading names agree.**  An exchange is decoded from a string just when the string
    names it, and any other string is refused as data, in the words in which reading refuses it
    unless they end in a position.  Market types, message types and collaterals are decoded from
    their exact codes, in either form; so what is decoded is read alike, and what is only read is
    another spelling.  What is written for a term is decoded as the term. -/
theorem decode_agrees :
    (∀ name text, Document (.string name) text.toList →
      (∀ e : Exchange, readText readExchange text = .ok e ↔ parse name = .ok e) ∧
      ∀ err, parse (α := Exchange) name = .error err → ∃ fault, RefusesAlike text err fault) ∧
    (∀ name text, HoldsName name text →
      DecodesCodes MarketType name text ∧ DecodesCodes MessageType name text ∧
      ∀ c, readText (readTerm Collateral) text = .ok c ↔ name = c.code) ∧
    (∀ e : Exchange, readText readExchange (Enumeration.encode e) = .ok e) ∧
    (∀ m : MarketType, readText (readTerm MarketType) (Enumeration.encode m) = .ok m) ∧
    (∀ m : MessageType, readText (readTerm MessageType) (Enumeration.encode m) = .ok m) ∧
    ∀ c : Collateral, readText (readTerm Collateral) (Enumeration.encode c) = .ok c := by
  refine ⟨fun name text h => ⟨fun e => ?_, fun err herr => ⟨_, refusesAlike h herr⟩⟩,
    fun name text h => ⟨decodesCodes rfl h, decodesCodes rfl h, fun c => ?_⟩,
    fun e => ?_, readText_encode, readText_encode, readText_encode⟩
  · rw [readText_exchange h]
    cases parse (α := Exchange) name <;> simp [Except.mapError]
  · rw [h.readText_iff, Collateral.name_eq_code]
  · have hname : parse (Enumeration.name e) = .ok e := by
      rw [Exchange.name_eq_code]
      exact parse_eq_ok_iff.mpr (names_code e)
    rw [Enumeration.encode, readText_exchange (document_quote _), hname]
    rfl

/-- **The words may differ.**  A position at the end of a name is taken for that of the fault; no
    line has the number 0, so it is not shown again. -/
theorem not_decode_agrees_position :
    ¬ ∀ name text, Document (.string name) text.toList →
      ∀ err, parse (α := Exchange) name = .error err → ∃ fault,
        readText readExchange text = .error fault ∧ fault.category = .data ∧
          fault.message = err.message := by
  intro h
  have herr : parse (α := Exchange) "x at line 0 column 5" =
      .error (.unknownName .exchange "x at line 0 column 5") :=
    parse_eq_error (by decide +kernel)
  have hdocument := document_quote "x at line 0 column 5"
  obtain ⟨fault, hfault, -, hmessage⟩ := h _ _ hdocument _ herr
  rw [(refusesAlike hdocument herr).decode_eq] at hfault
  obtain rfl := Except.error.inj hfault
  -- the position is taken off the error
  have hcut : Fault.message (.refused (.unknownName .exchange "x at line 0 column 5")) =
      "unknown exchange: x" := by
    decide +kernel
  rw [hcut] at hmessage
  revert hmessage
  decide +kernel

/-- An escaped letter makes no difference, and a capital does where codes are stored.  A position at
    the end of a name loses the digits that it does not need. -/
theorem decode_agrees_escaped :
    readText readExchange "\"\\u004dXC\"\n" = .ok .mexc ∧
    (∃ fault, readText readExchange (Json.quote "nyse at line 07 column 1") = .error fault ∧
      fault.message = "unknown exchange: nyse at line 7 column 1") ∧
    readText (readTerm MessageType) "\x7b\"l2_top\\u006b\": null\x7d" = .ok .l2TopK ∧
    parse "L2_TopK" = .ok MessageType.l2TopK ∧
    ∀ m, readText (readTerm MessageType) (Json.quote "L2_TopK") ≠ .ok m := by
  have hexchange : Document (.string "MXC") "\"\\u004dXC\"\n".toList := by
    have hbody : StringBody "MXC".toList ("\\u004dXC\"".toList ++ ['\n']) ['\n'] :=
      .unicode (by decide) (.plain (by decide) (by decide) (by decide)
        (.plain (by decide) (by decide) (by decide) .close))
    exact ⟨_, _, .none, .string hbody, .some (by decide) .none⟩
  have hmessage : HoldsName "l2_topk" "\x7b\"l2_top\\u006b\": null\x7d" := by
    have hbody : StringBody "l2_topk".toList
        ("l2_top\\u006b\"".toList ++ ": null\x7d".toList) ": null\x7d".toList := by
      iterate 6 refine .plain (by decide) (by decide) (by decide) ?_
      exact .unicode (by decide) .close
    exact ⟨_, .inr rfl, _, _, .none, .object (.member .absent
      (.mk .none hbody .none (.some (by decide) .none) .null) (.done .none)), .none⟩
  have hname : parse "MXC" = .ok Exchange.mexc := parse_eq_ok (by decide +kernel)
  have herr : parse (α := Exchange) "nyse at line 07 column 1" =
      .error (.unknownName .exchange "nyse at line 07 column 1") :=
    parse_eq_error (by decide +kernel)
  have hends : Position.EndsIn "unknown exchange: nyse at line 07 column 1"
      "unknown exchange: nyse" { line := 7, column := 1 } :=
    ⟨['0', '7'], ['1'], ⟨by decide, List.all_eq_true.mp rfl, rfl, by decide⟩,
      ⟨by decide, List.all_eq_true.mp rfl, rfl, by decide⟩, by decide +kernel⟩
  have hspells : Spells "L2_TopK" "l2_topk" :=
    (IsWord.spells_iff (by decide)).mpr (by decide +kernel)
  obtain ⟨hdecode, hcodes, -⟩ := decode_agrees
  obtain ⟨fault, hfault⟩ := (hdecode _ _ (document_quote "nyse at line 07 column 1")).2 _ herr
  obtain ⟨hother, hrefused⟩ := ((hcodes _ _ (holdsName_quote "L2_TopK")).2.1.only_parse_iff
    .l2TopK).mpr ⟨hspells, by decide⟩
  exact ⟨((hdecode _ _ hexchange).1 .mexc).mpr hname,
    ⟨fault, hfault.decode_eq, hfault.message_eq_of_endsIn _ _ hends⟩, ((hcodes _ _ hmessage).2.1.ok_iff _).mpr rfl,
    hother, hrefused⟩

end Vocabulary

end MarketFeed
