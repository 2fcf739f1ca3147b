import Mathlib.Tactic.IntervalCases
import MarketFeed.Plan.Load
import MarketFeed.Proofs.Json.Naming
import MarketFeed.Proofs.Json.Record
import MarketFeed.Proofs.Json.Write

namespace MarketFeed

/-!
# What plans are loaded from

* `Plan.Entry.DenotedBy`, `Plan.DenotedBy` — the JSON values that stand for an entry and for a plan,
  with the members they are made of (`Plan.Entry.MadeOf`, `Plan.MadeOf`).
* `Plan.Entry.slots`, `Plan.slots` — the parts of a draft, which the fields of the schemas fill.
* `Plan.Entry.reads`, `Plan.reads` — entries and plans are read from the values that stand for them.
* `Plan.load_eq_ok_iff` — a file is loaded as the plan that its JSON value stands for.
-/

open Json

/-! ### The values that stand for a plan -/

/-- The names of the fields of an entry, in order. -/
def Plan.Entry.fieldNames : List String :=
  ["exchange", "market_type", "msg_types", "symbols", "subscribe", "configs"]

/-- The entry that some members stand for.  Four names occur once; the direction is to subscribe
    and there are no parameters unless the other two names occur, once as well. -/
structure Plan.Entry.MadeOf (ms : List (String × Json)) (e : Plan.Entry) : Prop where
  exchange : valuesOf "exchange" ms = [.string e.exchange]
  market : ∃ v, valuesOf "market_type" ms = [v] ∧ IsCode v e.market
  messages : ∃ vs, valuesOf "msg_types" ms = [.array vs] ∧
    List.Forall₂ IsCode vs e.selection.messages
  symbols : valuesOf "symbols" ms = [ofStrings e.selection.symbols]
  subscribe : (valuesOf "subscribe" ms = [] ∧ e.selection.subscribe = true) ∨
    valuesOf "subscribe" ms = [.bool e.selection.subscribe]
  params : (valuesOf "configs" ms = [] ∧ e.selection.params = .empty) ∨
    ∃ entries, valuesOf "configs" ms = [.object (ofEntries entries)] ∧
      e.selection.params = Params.ofList entries

/-- The value stands for the entry: an object, or a list of its first four to six fields. -/
def Plan.Entry.DenotedBy (v : Json) (e : Plan.Entry) : Prop :=
  ∃ ms, recordMembers? Plan.Entry.fieldNames 4 v = some ms ∧ Plan.Entry.MadeOf ms e

/-- The names of the fields of a plan, in order. -/
def Plan.fieldNames : List String := ["module_name", "log_path", "subscriptions"]

/-- At most one value, which is `null` or a text. -/
def IsOptionalText (vs : List Json) (text? : Option String) : Prop :=
  (text? = none ∧ (vs = [] ∨ vs = [.null])) ∨ ∃ text, text? = some text ∧ vs = [.string text]

/-- The plan that some members stand for. -/
structure Plan.MadeOf (ms : List (String × Json)) (p : Plan) : Prop where
  moduleName : IsOptionalText (valuesOf "module_name" ms) p.moduleName?
  logPath : IsOptionalText (valuesOf "log_path" ms) p.logPath?
  entries : ∃ vs, valuesOf "subscriptions" ms = [.array vs] ∧
    List.Forall₂ Plan.Entry.DenotedBy vs p.entries

/-- The value stands for the plan: an object, or a list of its three fields. -/
def Plan.DenotedBy (v : Json) (p : Plan) : Prop :=
  ∃ ms, recordMembers? Plan.fieldNames 3 v = some ms ∧ Plan.MadeOf ms p

/-! ### Finishing a draft -/

/-- A field is there if it was set. -/
theorem require_eq_ok_iff {α : Type} (name : String) (a? : Option α) (a : α) :
    require name a? = .ok a ↔ a? = some a := by
  cases a? <;> simp [require]

/-- A draft is an entry if the first four fields were set. -/
theorem Plan.Entry.finish_eq_ok_iff (d : Plan.Entry.Draft) (e : Plan.Entry) :
    Plan.Entry.schema.finish d = .ok e ↔ d.exchange? = some e.exchange ∧
      d.market? = some e.market ∧ d.messages? = some e.selection.messages ∧
      d.symbols? = some e.selection.symbols ∧ e.selection.subscribe = d.subscribe?.getD true ∧
      e.selection.params = d.params?.getD .empty := by
  simp only [Plan.Entry.schema, bind_eq_ok_iff, require_eq_ok_iff, pure_eq_ok, Except.ok.injEq]
  constructor
  · rintro ⟨exchange, hexchange, market, hmarket, messages, hmessages, symbols, hsymbols, rfl⟩
    exact ⟨hexchange, hmarket, hmessages, hsymbols, rfl, rfl⟩
  · rintro ⟨hexchange, hmarket, hmessages, hsymbols, hsubscribe, hparams⟩
    refine ⟨_, hexchange, _, hmarket, _, hmessages, _, hsymbols, ?_⟩
    rw [← hsubscribe, ← hparams]

/-- A draft is a plan if its entries were set. -/
theorem Plan.finish_eq_ok_iff (d : Plan.Draft) (p : Plan) :
    Plan.schema.finish d = .ok p ↔ p.moduleName? = d.moduleName?.join ∧
      p.logPath? = d.logPath?.join ∧ d.entries? = some p.entries := by
  simp only [Plan.schema, bind_eq_ok_iff, require_eq_ok_iff, pure_eq_ok, Except.ok.injEq]
  constructor
  · rintro ⟨entries, hentries, rfl⟩
    exact ⟨rfl, rfl, hentries⟩
  · rintro ⟨hname, hpath, hentries⟩
    refine ⟨_, hentries, ?_⟩
    rw [← hname, ← hpath]

/-! ### Entries -/

/-- The parts of a draft of an entry. -/
def Plan.Entry.slots : List (Slot Plan.Entry.Draft) :=
  [{ name := "exchange"
     Value := String
     get := fun d => d.exchange?
     set := fun d a => { d with exchange? := some a }
     Means := fun v s => v = .string s },
   { name := "market_type"
     Value := MarketType
     get := fun d => d.market?
     set := fun d a => { d with market? := some a }
     Means := IsCode },
   { name := "msg_types"
     Value := List MessageType
     get := fun d => d.messages?
     set := fun d a => { d with messages? := some a }
     Means := fun v ms => ∃ vs, v = .array vs ∧ List.Forall₂ IsCode vs ms },
   { name := "symbols"
     Value := List String
     get := fun d => d.symbols?
     set := fun d a => { d with symbols? := some a }
     Means := fun v ss => ∃ vs, v = .array vs ∧ List.Forall₂ (fun v s => v = .string s) vs ss },
   { name := "subscribe"
     Value := Bool
     get := fun d => d.subscribe?
     set := fun d a => { d with subscribe? := some a }
     Means := fun v b => v = .bool b
     mayEnd := true },
   { name := "configs"
     Value := Params
     get := fun d => d.params?
     set := fun d a => { d with params? := some a }
     Means := fun v params => ∃ entries, v = .object (ofEntries entries) ∧
       params = Params.ofList entries
     mayEnd := true }]

/-- The fields of an entry are read one by one into slots of their own. -/
theorem Plan.Entry.laws : Plan.Entry.schema.Laws Plan.Entry.slots where
  fits :=
    .cons ⟨rfl, fun _ => rfl, fun _ => reads_string.map _, rfl⟩
      (.cons ⟨rfl, fun _ => rfl, fun _ => reads_code.map _, rfl⟩
      (.cons ⟨rfl, fun _ => rfl, fun _ => (reads_list reads_code).map _, rfl⟩
      (.cons ⟨rfl, fun _ => rfl, fun _ => (reads_list reads_string).map _, rfl⟩
      (.cons ⟨rfl, fun _ => rfl, fun _ => reads_bool.map _, rfl⟩
      (.cons ⟨rfl, fun _ => rfl, fun _ => reads_params.map _, rfl⟩ .nil)))))
  nodup := by decide
  get_set := by
    simp [Plan.Entry.slots]
  get_set_of_ne := by
    simp [Plan.Entry.slots]
  ext := by
    rintro ⟨⟩ ⟨⟩ h
    simpa [Plan.Entry.slots] using h
  empty := by
    simp [Plan.Entry.slots, Plan.Entry.schema]

/-- An entry written as a list has at least four items. -/
theorem Plan.Entry.isLeast : IsLeast Plan.Entry.slots 4 := by
  intro n hn
  have hn' : n ≤ 6 := hn
  interval_cases n <;> simp [Plan.Entry.slots]

/-- A slot that is full holds the only value of its name. -/
theorem Json.Slot.holds_of_some {δ : Type} {s : Slot δ} {ms : List (String × Json)} {d : δ}
    {a : s.Value} (hget : s.get d = some a) :
    s.Holds ms d ↔ ∃ v, valuesOf s.name ms = [v] ∧ s.Means v a := by
  constructor
  · rintro (⟨-, hnone⟩ | ⟨v, b, hv, hmeans, hsome⟩)
    · rw [hget] at hnone
      cases hnone
    · rw [hget] at hsome
      exact ⟨v, hv, Option.some.inj hsome ▸ hmeans⟩
  · rintro ⟨v, hv, hmeans⟩
    exact .inr ⟨v, a, hv, hmeans, hget⟩

/-- The texts of a list of strings. -/
theorem exists_strings_iff (vs : List Json) (ss : List String) :
    (∃ v, vs = [v] ∧ ∃ items, v = Json.array items ∧
      List.Forall₂ (fun v s => v = Json.string s) items ss) ↔ vs = [ofStrings ss] := by
  simp only [forall₂_string_iff, ofStrings]
  constructor
  · rintro ⟨v, rfl, items, rfl, rfl⟩
    rfl
  · rintro rfl
    exact ⟨_, rfl, _, rfl, rfl⟩

/-- A draft that can be finished as an entry is there when its members make up the entry. -/
theorem Plan.Entry.exists_draft_iff (ms : List (String × Json)) (e : Plan.Entry) :
    (∃ d, (∀ s ∈ Plan.Entry.slots, s.Holds ms d) ∧ Plan.Entry.schema.finish d = .ok e) ↔
      Plan.Entry.MadeOf ms e := by
  simp only [Plan.Entry.finish_eq_ok_iff, Plan.Entry.slots, List.forall_mem_cons,
    List.not_mem_nil, false_implies, implies_true, and_true]
  constructor
  · rintro ⟨d, ⟨hexchange, hmarket, hmessages, hsymbols, hsubscribe, hparams⟩, hexchange', hmarket',
      hmessages', hsymbols', hsubscribe', hparams'⟩
    rw [Slot.holds_of_some hexchange'] at hexchange
    rw [Slot.holds_of_some hmarket'] at hmarket
    rw [Slot.holds_of_some hmessages'] at hmessages
    rw [Slot.holds_of_some hsymbols', exists_strings_iff] at hsymbols
    -- four parts of a finished draft are full, and the other two have their defaults
    constructor
    · obtain ⟨v, hv, rfl⟩ := hexchange
      exact hv
    · exact hmarket
    · obtain ⟨v, hv, vs, rfl, hvs⟩ := hmessages
      exact ⟨vs, hv, hvs⟩
    · exact hsymbols
    · rcases hsubscribe with ⟨hnil, hnone⟩ | ⟨v, b, hv, rfl, hb⟩
      · rw [show d.subscribe? = none from hnone] at hsubscribe'
        exact .inl ⟨hnil, hsubscribe'⟩
      · rw [show d.subscribe? = some b from hb] at hsubscribe'
        rw [show e.selection.subscribe = b from hsubscribe']
        exact .inr hv
    · rcases hparams with ⟨hnil, hnone⟩ | ⟨v, params, hv, ⟨entries, rfl, rfl⟩, hb⟩
      · rw [show d.params? = none from hnone] at hparams'
        exact .inl ⟨hnil, hparams'⟩
      · rw [show d.params? = some _ from hb] at hparams'
        exact .inr ⟨entries, hv, hparams'⟩
  · rintro ⟨hexchange, ⟨market, hmarket⟩, ⟨messages, hmessages, hmessages'⟩, hsymbols, hsubscribe,
      hparams⟩
    -- the two fields that may be absent decide what the draft holds there
    obtain ⟨subscribe?, hsubscribe, hsubscribe'⟩ : ∃ subscribe? : Option Bool,
        ((valuesOf "subscribe" ms = [] ∧ subscribe? = none) ∨
          ∃ v b, valuesOf "subscribe" ms = [v] ∧ v = .bool b ∧ subscribe? = some b) ∧
        e.selection.subscribe = subscribe?.getD true := by
      rcases hsubscribe with ⟨hnil, htrue⟩ | hb
      · exact ⟨none, .inl ⟨hnil, rfl⟩, htrue⟩
      · exact ⟨some _, .inr ⟨_, _, hb, rfl, rfl⟩, rfl⟩
    obtain ⟨params?, hparams, hparams'⟩ : ∃ params? : Option Params,
        ((valuesOf "configs" ms = [] ∧ params? = none) ∨
          ∃ v params, valuesOf "configs" ms = [v] ∧ (∃ entries, v = .object (ofEntries entries) ∧
            params = Params.ofList entries) ∧ params? = some params) ∧
        e.selection.params = params?.getD .empty := by
      rcases hparams with ⟨hnil, hempty⟩ | ⟨entries, hentries, hlist⟩
      · exact ⟨none, .inl ⟨hnil, rfl⟩, hempty⟩
      · exact ⟨some _, .inr ⟨_, _, hentries, ⟨entries, rfl, rfl⟩, rfl⟩, hlist⟩
    refine ⟨{ exchange? := some e.exchange, market? := some e.market
              messages? := some e.selection.messages, symbols? := some e.selection.symbols
              subscribe?, params? }, ⟨?_, ?_, ?_, ?_, hsubscribe, hparams⟩,
      rfl, rfl, rfl, rfl, hsubscribe', hparams'⟩
    · exact .inr ⟨_, _, hexchange, rfl, rfl⟩
    · exact .inr ⟨_, _, hmarket.1, hmarket.2, rfl⟩
    · exact .inr ⟨_, _, hmessages, ⟨messages, rfl, hmessages'⟩, rfl⟩
    · exact (Slot.holds_of_some rfl).mpr ((exists_strings_iff _ _).mpr hsymbols)

/-- **An entry is read from the values that stand for it.** -/
theorem Plan.Entry.reads : Reads Plan.Entry.schema.read Plan.Entry.DenotedBy := by
  apply (Plan.Entry.laws.reads Plan.Entry.isLeast).congr
  intro v e
  show _ ↔ ∃ ms, recordMembers? Plan.Entry.fieldNames 4 v = some ms ∧ Plan.Entry.MadeOf ms e
  simp only [← Plan.Entry.exists_draft_iff]
  constructor
  · rintro ⟨ms, d, hms, hd⟩
    exact ⟨ms, hms, d, hd⟩
  · rintro ⟨ms, hms, d, hd⟩
    exact ⟨ms, d, hms, hd⟩

/-! ### Plans -/

/-- What an optional text means. -/
def MeansOptional (v : Json) (text? : Option String) : Prop :=
  (v = .null ∧ text? = none) ∨ (v ≠ .null ∧ ∃ text, v = .string text ∧ text? = some text)

/-- The parts of a draft of a plan. -/
def Plan.slots : List (Slot Plan.Draft) :=
  [{ name := "module_name"
     Value := Option String
     get := fun d => d.moduleName?
     set := fun d a => { d with moduleName? := some a }
     Means := MeansOptional },
   { name := "log_path"
     Value := Option String
     get := fun d => d.logPath?
     set := fun d a => { d with logPath? := some a }
     Means := MeansOptional },
   { name := "subscriptions"
     Value := List Plan.Entry
     get := fun d => d.entries?
     set := fun d a => { d with entries? := some a }
     Means := fun v es => ∃ vs, v = .array vs ∧ List.Forall₂ Plan.Entry.DenotedBy vs es }]

/-- The fields of a plan are read one by one into slots of their own. -/
theorem Plan.laws : Plan.schema.Laws Plan.slots where
  fits :=
    .cons ⟨rfl, fun _ => rfl, fun _ => (reads_optional reads_string).map _, rfl⟩
      (.cons ⟨rfl, fun _ => rfl, fun _ => (reads_optional reads_string).map _, rfl⟩
      (.cons ⟨rfl, fun _ => rfl, fun _ => (reads_list Plan.Entry.reads).map _, rfl⟩ .nil))
  nodup := by decide
  get_set := by
    simp [Plan.slots]
  get_set_of_ne := by
    simp [Plan.slots]
  ext := by
    rintro ⟨⟩ ⟨⟩ h
    simpa [Plan.slots] using h
  empty := by
    simp [Plan.slots, Plan.schema]

/-- A plan written as a list has three items. -/
theorem Plan.isLeast : IsLeast Plan.slots 3 := by
  intro n hn
  have hn' : n ≤ 3 := hn
  interval_cases n <;> simp [Plan.slots]

/-- An optional text in a draft is absent, or `null`, or there. -/
theorem exists_optionalText_iff (vs : List Json) (text? : Option String) :
    (∃ text?? : Option (Option String), ((vs = [] ∧ text?? = none) ∨
      ∃ v a, vs = [v] ∧ MeansOptional v a ∧ text?? = some a) ∧ text? = text??.join) ↔
      IsOptionalText vs text? := by
  constructor
  · rintro ⟨text??, ⟨rfl, rfl⟩ | ⟨v, a, rfl, ⟨rfl, rfl⟩ | ⟨-, text, rfl, rfl⟩, rfl⟩, rfl⟩
    · exact .inl ⟨rfl, .inl rfl⟩
    · exact .inl ⟨rfl, .inr rfl⟩
    · exact .inr ⟨text, rfl, rfl⟩
  · rintro (⟨rfl, rfl | rfl⟩ | ⟨text, rfl, rfl⟩)
    · exact ⟨none, .inl ⟨rfl, rfl⟩, rfl⟩
    · exact ⟨some none, .inr ⟨_, _, rfl, .inl ⟨rfl, rfl⟩, rfl⟩, rfl⟩
    · exact ⟨some (some text), .inr ⟨_, _, rfl, .inr ⟨nofun, text, rfl, rfl⟩, rfl⟩, rfl⟩

/-- A draft that can be finished as a plan is there when its members make up the plan. -/
theorem Plan.exists_draft_iff (ms : List (String × Json)) (p : Plan) :
    (∃ d, (∀ s ∈ Plan.slots, s.Holds ms d) ∧ Plan.schema.finish d = .ok p) ↔
      Plan.MadeOf ms p := by
  simp only [Plan.finish_eq_ok_iff, Plan.slots, List.forall_mem_cons, List.not_mem_nil,
    false_implies, implies_true, and_true]
  constructor
  · rintro ⟨d, ⟨hname, hpath, hentries⟩, hname', hpath', hentries'⟩
    rw [Slot.holds_of_some hentries'] at hentries
    obtain ⟨v, hv, vs, rfl, hvs⟩ := hentries
    exact ⟨(exists_optionalText_iff _ _).mp ⟨_, hname, hname'⟩,
      (exists_optionalText_iff _ _).mp ⟨_, hpath, hpath'⟩, vs, hv, hvs⟩
  · -- a draft tells `null` from an absent text, a plan does not
    rintro ⟨hname, hpath, vs, hentries, hvs⟩
    obtain ⟨name??, hname, hname'⟩ := (exists_optionalText_iff _ _).mpr hname
    obtain ⟨path??, hpath, hpath'⟩ := (exists_optionalText_iff _ _).mpr hpath
    exact ⟨{ moduleName? := name??, logPath? := path??, entries? := some p.entries },
      ⟨hname, hpath, .inr ⟨_, _, hentries, ⟨vs, rfl, hvs⟩, rfl⟩⟩, hname', hpath', rfl⟩

/-- **A plan is read from the values that stand for it.** -/
theorem Plan.reads : Reads Plan.schema.read Plan.DenotedBy := by
  apply (Plan.laws.reads Plan.isLeast).congr
  intro v p
  show _ ↔ ∃ ms, recordMembers? Plan.fieldNames 3 v = some ms ∧ Plan.MadeOf ms p
  simp only [← Plan.exists_draft_iff]
  constructor
  · rintro ⟨ms, d, hms, hd⟩
    exact ⟨ms, hms, d, hd⟩
  · rintro ⟨ms, hms, d, hd⟩
    exact ⟨ms, d, hms, hd⟩

/-! ### Texts and files -/

/-- A text is the plan that its value stands for. -/
theorem Plan.ofText_eq_ok_iff {v : Json} {text : String} (h : Document v text.toList) (p : Plan) :
    Plan.ofText text = .ok p ↔ Plan.DenotedBy v p :=
  readText_iff Plan.reads h p

/-- **A file is loaded as the plan that its value stands for**, however the value is spelled; it is
    refused when its value stands for none. -/
theorem Plan.load_eq_ok_iff {files : Files} {path : String} {v : Json} {text : String}
    (hread : files.read path = .ok text.toUTF8) (h : Document v text.toList) (p : Plan) :
    Plan.load files path = .ok p ↔ Plan.DenotedBy v p := by
  -- the bytes of the file are those of the text
  have htext : String.fromUTF8? text.toUTF8 = some text := by
    rw [String.fromUTF8?, dif_pos (show text.toUTF8.IsValidUTF8 from text.isValidUTF8)]
    rfl
  rw [Plan.load, hread, ← Plan.ofText_eq_ok_iff h p]
  simp only [Plan.ofBytes, htext]
  cases Plan.ofText text with
  | error e => simp [Except.mapError]
  | ok q => simp [Except.mapError]

/-- A plan with a market type in its longer form, a name that is no field, and a parameter that is
    set twice. -/
theorem Plan.load_eq_ok_iff_repeated :
    Plan.load
        { directory := "/"
          contents := [("p", (Json.object
            [("comment", .array [.null]),
             ("subscriptions", .array [.object
               [("symbols", .array [.string "a\"b"]), ("exchange", .string "ftx"),
                ("market_type", .object [("spot", .null)]),
                ("configs", .object [("interval", .string "1m"), ("interval", .string "5m")]),
                ("msg_types", .array [.string "trade"])]])]).compact.toUTF8)] }
        "p" =
      .ok
        { entries := [
            { exchange := "ftx", market := .spot
              selection := {
                messages := [.trade], symbols := ["a\"b"]
                params := { entries? := some [("interval", "5m")] } } }] } := by
  have hparts : Text.splitOn '/' (Path.join "/" "p") = ["", "p"] := by cbv
  have hroot : Path.resolve "/" "/" = [] := by cbv
  have hfile : Path.resolve "/" "p" = ["p"] := by cbv
  have hread : ∀ bytes,
      Files.read { directory := "/", contents := [("p", bytes)] } "p" = .ok bytes := by
    intro bytes
    simp [Files.read, Files.contentAt, hparts, Files.follow, Files.denies, Files.holds,
      Files.isDirectory, Files.resolved, hfile, hroot, Path.step]
  refine (Plan.load_eq_ok_iff (hread _) (Proper.document ?_) _).mpr ?_
  · simp [Proper, ProperMembers, ProperItems]
  · refine ⟨_, rfl, .inl ⟨rfl, .inl (by decide)⟩, .inl ⟨rfl, .inl (by decide)⟩, _, rfl, .cons ?_ .nil⟩
    exact ⟨_, rfl, rfl, ⟨_, rfl, .inr rfl⟩, ⟨_, rfl, .cons (.inl rfl) .nil⟩, rfl, .inl ⟨rfl, rfl⟩,
      .inr ⟨[("interval", "1m"), ("interval", "5m")], rfl, rfl⟩⟩

end MarketFeed
