import Mathlib.Data.List.TakeWhile
import MarketFeed.Arguments
import MarketFeed.Proofs.Fallible

namespace MarketFeed

/-!
# Command lines in any order

An option with its value can be written as one argument.  What a command line that is written so
asks for depends on the values of each option alone, not on the order of the options.

* `Setting`, `Setting.text` — an option with its value, in one argument.
* `Setting.valuesOf`, `Setting.Consistent` — the values of an option, in order, and settings that
  can be given together.
* `Given.HoldsFor`, `Given.Holds` — what was given is what the values say, for one option and for
  all of them.
* `Given.exists_accept` — one more value is held with those before it, and changes nothing else.
* `Scope.scan_setting`, `Scope.exists_scan_settings` — a scope takes settings one by one.
* `Setting.AskFor`, `Invocation.ofArguments_settings` — a request is asked for by its settings in
  any order.
-/

/-! ### Settings -/

/-- An option with its value, which is of no account for an option that has none. -/
structure Setting where
  option : Switch
  value : String := ""
  deriving DecidableEq, Repr

namespace Setting

/-- The setting in one argument. -/
def text (s : Setting) : String :=
  "--" ++ s.option.long ++ if s.option.takesValue then "=" ++ s.value else ""

/-- The values that the settings give to an option, in order. -/
def valuesOf (o : Switch) (settings : List Setting) : List String :=
  (settings.filter fun s => s.option = o).map value

variable {o : Switch} {s : Setting}

/-- Settings on both sides add up, in order. -/
@[simp] theorem valuesOf_append (before after : List Setting) :
    valuesOf o (before ++ after) = valuesOf o before ++ valuesOf o after := by
  simp [valuesOf]

/-- A setting gives its value to its own option. -/
theorem valuesOf_singleton : valuesOf o [s] = if s.option = o then [s.value] else [] := by
  by_cases h : s.option = o <;> simp [valuesOf, h]

/-- An option that nobody sets has no values. -/
theorem valuesOf_eq_nil {settings : List Setting} (h : ∀ s ∈ settings, s.option ≠ o) :
    valuesOf o settings = [] := by
  simpa [valuesOf] using h

end Setting

/-- The option can have the values: message types by names that they go by, and all but message
    types and symbols at most one. -/
def Switch.Admits : Switch → List String → Prop
  | .help, values => values = []
  | .message, values =>
    ∀ spelling ∈ values, ∃ m, Vocabulary.parse (α := MessageType) spelling = .ok m
  | .symbol, _ => True
  | _, values => values.length ≤ 1

/-- Fewer values are admitted where more are. -/
theorem Switch.Admits.of_append {o : Switch} {values more : List String}
    (h : o.Admits (values ++ more)) : o.Admits values := by
  cases o with
  | help => exact (List.append_eq_nil_iff.mp h).1
  | message => exact fun spelling hspelling => h spelling (List.mem_append_left _ hspelling)
  | symbol => trivial
  | _ => exact (List.sublist_append_left values more).length_le.trans h

/-- The settings can be given together. -/
def Setting.Consistent (settings : List Setting) : Prop :=
  ∀ o : Switch, o.Admits (valuesOf o settings)

/-- Settings that can stand together can stand alone. -/
theorem Setting.Consistent.of_append {before after : List Setting}
    (h : Consistent (before ++ after)) : Consistent before := by
  intro o
  have ho := h o
  rw [valuesOf_append] at ho
  exact ho.of_append

/-! ### What was given -/

namespace Given

open Setting

/-- What was given for an option is what the values say. -/
def HoldsFor (g : Given) : Switch → List String → Prop
  | .help, values => values = []
  | .logLevel, values => values = g.logLevel?.toList
  | .logDirectory, values => values = g.logDirectory?.toList
  | .exchange, values => values = g.exchange?.toList
  | .message, values =>
    List.Forall₂ (fun spelling m => Vocabulary.parse spelling = .ok m) values g.messages
  | .symbol, values => values = g.symbols
  | .unsubscribe, values => values.length = g.unsubscribe.toNat
  | .interval, values => values = g.interval?.toList

/-- What was given is what the settings say, and no value is waited for. -/
structure Holds (g : Given) (settings : List Setting) : Prop where
  values (o : Switch) : g.HoldsFor o (valuesOf o settings)
  pending : g.pending? = none

/-- Nothing is given where nothing is set. -/
theorem holds_nil : ({} : Given).Holds [] where
  values o := by
    cases o with
    | message => exact .nil
    | _ => rfl
  pending := rfl

variable {g : Given} {settings : List Setting} {s : Setting}

/-- A value that may be given once is taken where none was given. -/
theorem once_eq_ok {old? : Option String} {values : List String} {value : String}
    (hold : values = old?.toList) (h : (values ++ [value]).length ≤ 1) :
    once old? value = .ok (some value) ∧ values = [] := by
  rw [List.length_append, List.length_singleton] at h
  have hnil : values = [] := List.eq_nil_of_length_eq_zero (by omega)
  cases old? with
  | none => exact ⟨rfl, hnil⟩
  | some old => rw [hnil] at hold; cases hold

/-- **One more value of an option is accepted.**  It is held after those before it, and what was
    given for the other options stays. -/
theorem exists_accept {o : Switch} {values : List String} {value : String}
    (hg : g.HoldsFor o values) (ho : o.Admits (values ++ [value])) :
    ∃ g', g.accept o value = .ok g' ∧ g'.HoldsFor o (values ++ [value]) ∧
      (∀ o', o' ≠ o → g'.HoldsFor o' = g.HoldsFor o') ∧ g'.pending? = g.pending? := by
  cases o with
  | help => exact absurd ho (by simp [Switch.Admits])
  | logLevel =>
    obtain ⟨honce, rfl⟩ := once_eq_ok hg ho
    refine ⟨{ g with logLevel? := some value }, by rw [accept, honce]; rfl, rfl,
      fun o' ho' => ?_, rfl⟩
    cases o' <;> first | rfl | exact absurd rfl ho'
  | logDirectory =>
    obtain ⟨honce, rfl⟩ := once_eq_ok hg ho
    refine ⟨{ g with logDirectory? := some value }, by rw [accept, honce]; rfl, rfl,
      fun o' ho' => ?_, rfl⟩
    cases o' <;> first | rfl | exact absurd rfl ho'
  | exchange =>
    obtain ⟨honce, rfl⟩ := once_eq_ok hg ho
    refine ⟨{ g with exchange? := some value }, by rw [accept, honce]; rfl, rfl,
      fun o' ho' => ?_, rfl⟩
    cases o' <;> first | rfl | exact absurd rfl ho'
  | interval =>
    obtain ⟨honce, rfl⟩ := once_eq_ok hg ho
    refine ⟨{ g with interval? := some value }, by rw [accept, honce]; rfl, rfl,
      fun o' ho' => ?_, rfl⟩
    cases o' <;> first | rfl | exact absurd rfl ho'
  | symbol =>
    have hsymbols : values = g.symbols := hg
    refine ⟨{ g with symbols := g.symbols ++ [value] }, rfl, by rw [hsymbols]; rfl,
      fun o' ho' => ?_, rfl⟩
    cases o' <;> first | rfl | exact absurd rfl ho'
  | message =>
    obtain ⟨m, hm⟩ := ho value (List.mem_append_right _ List.mem_cons_self)
    refine ⟨{ g with messages := g.messages ++ [m] }, by simp only [accept, hm],
      List.rel_append hg (.cons hm .nil), fun o' ho' => ?_, rfl⟩
    cases o' <;> first | rfl | exact absurd rfl ho'
  | unsubscribe =>
    have hcount : values.length = g.unsubscribe.toNat := hg
    have hlength : values.length + 1 ≤ 1 := by simpa [Switch.Admits] using ho
    have hnot : g.unsubscribe = false := by
      cases hu : g.unsubscribe with
      | false => rfl
      | true =>
        rw [hu, Bool.toNat_true] at hcount
        omega
    refine ⟨{ g with unsubscribe := true }, by simp [accept, hnot], ?_, fun o' ho' => ?_, rfl⟩
    · show (values ++ [value]).length = 1
      rw [List.length_append, List.length_singleton]
      omega
    · cases o' <;> first | rfl | exact absurd rfl ho'

/-- One more setting is held with those before it. -/
theorem Holds.exists_accept (hg : g.Holds settings) (hc : Consistent (settings ++ [s])) :
    ∃ g', g.accept s.option s.value = .ok g' ∧ g'.Holds (settings ++ [s]) := by
  have hadmits := hc s.option
  rw [valuesOf_append, valuesOf_singleton, if_pos rfl] at hadmits
  obtain ⟨g', haccept, hsame, hother, hpending⟩ := Given.exists_accept (hg.values s.option) hadmits
  refine ⟨g', haccept, fun o => ?_, hpending.trans hg.pending⟩
  rw [valuesOf_append, valuesOf_singleton]
  by_cases ho : s.option = o
  · rwa [if_pos ho, ← ho]
  · rw [if_neg ho, List.append_nil, hother o (Ne.symm ho)]
    exact hg.values o

/-- Where no value is waited for, there is nothing to check. -/
theorem settle_eq {scope : Scope} (hpending : g.pending? = none) : g.settle scope = .ok g := by
  rw [settle, hpending]

end Given

/-! ### Arguments -/

/-- A setting as an argument: two dashes, the option, an equals sign, the value. -/
theorem Setting.toList_text (s : Setting) :
    s.text.toList = '-' :: '-' :: (s.option.long.toList ++
      if s.option.takesValue then '=' :: s.value.toList else []) := by
  unfold Setting.text
  split <;> simp

/-- A setting is read as the option's long name with the value. -/
theorem Argument.ofText_text (s : Setting) :
    Argument.ofText s.text =
      .long s.option.long.toList (if s.option.takesValue then some s.value else none) := by
  -- the equals sign is the first one, for no name has one
  have hname : ∀ c ∈ s.option.long.toList, (c != '=') = true := by
    apply List.all_eq_true.mp
    cases s.option <;> decide
  have hne : s.option.long.toList ≠ [] := by
    cases s.option <;> decide
  obtain ⟨c, cs, hlong⟩ := List.exists_cons_of_ne_nil hne
  rw [hlong] at hname
  have hdrop : ∀ tail, (c :: (cs ++ tail)).dropWhile (· != '=') = tail.dropWhile (· != '=') :=
    fun tail => List.dropWhile_append_of_pos hname
  have htake : ∀ tail, (c :: (cs ++ tail)).takeWhile (· != '=') =
      c :: cs ++ tail.takeWhile (· != '=') :=
    fun tail => List.takeWhile_append_of_pos hname
  unfold Argument.ofText
  rw [Setting.toList_text, hlong, List.cons_append]
  cases s.option.takesValue with
  | true => simp [hdrop, htake]
  | false =>
    simp only [Bool.false_eq_true, if_false, List.append_nil, List.dropWhile_eq_nil_iff.mpr hname]

namespace Scope

variable {scope : Scope} {g : Given} {s : Setting}

/-- An option is found by its long name where it may be set. -/
theorem long?_long {o : Switch} (h : o ∈ scope.options) : scope.long? o.long.toList = some o := by
  revert h
  cases scope <;> cases o <;> decide

/-- A setting is no subcommand. -/
theorem ofName?_text (s : Setting) : s.text ≠ "help" ∧ ofName? s.text = none := by
  have hne : ∀ name : String, name.toList.head? ≠ some '-' → s.text ≠ name := by
    rintro name hhead rfl
    rw [Setting.toList_text] at hhead
    exact hhead rfl
  refine ⟨hne _ (by decide), ?_⟩
  rw [ofName?, if_neg (hne _ (by decide)), if_neg (hne _ (by decide)), if_neg (hne _ (by decide))]

/-- An option is taken with its value. -/
theorem takeLong_text (hknown : s.option ∈ scope.options) (hpending : g.pending? = none) :
    scope.takeLong g s.option.long.toList (if s.option.takesValue then some s.value else none) =
      g.accept s.option s.value := by
  have htake : ∀ value, g.take scope s.option value = g.accept s.option value := by
    intro value
    rw [Given.take, Given.settle_eq hpending, ok_bind]
  rw [takeLong, long?_long hknown]
  cases hvalue : s.option.takesValue with
  | true => simp only [hvalue, if_true, htake]
  | false =>
    -- an option without a value does not look at the one it is given
    simp only [hvalue, Bool.false_eq_true, if_false, htake]
    cases ho : s.option with
    | help => rfl
    | unsubscribe => rfl
    | _ => rw [ho] at hvalue; cases hvalue

/-- **A scope takes a setting**, and goes on with what comes after it. -/
theorem scan_setting (hknown : s.option ∈ scope.options) (hpending : g.pending? = none)
    (rest : List String) :
    scope.scan g false (s.text :: rest) =
      g.accept s.option s.value >>= fun g' => scope.scan g' false rest := by
  obtain ⟨hhelp, hname⟩ := ofName?_text s
  have hopens : scope.opens? g s.text = none := by
    rw [opens?, hname, ite_self]
  rw [scan, if_neg Bool.false_ne_true, if_neg fun h => hhelp h.2.2, hopens]
  simp only [Argument.ofText_text, takeLong_text hknown hpending]

/-- **A scope takes settings one by one**, and then holds them all. -/
theorem exists_scan_settings {before settings : List Setting} (hg : g.Holds before)
    (hc : Setting.Consistent (before ++ settings))
    (hknown : ∀ s ∈ settings, s.option ∈ scope.options) (rest : List String) :
    ∃ g', g'.Holds (before ++ settings) ∧
      scope.scan g false (settings.map Setting.text ++ rest) = scope.scan g' false rest := by
  induction settings generalizing g before with
  | nil => exact ⟨g, by rwa [List.append_nil], rfl⟩
  | cons s settings ih =>
    rw [List.forall_mem_cons] at hknown
    rw [List.append_cons] at hc ⊢
    obtain ⟨g', haccept, hg'⟩ := hg.exists_accept hc.of_append
    obtain ⟨g'', hg'', hscan⟩ := ih hg' hc hknown.2
    refine ⟨g'', hg'', ?_⟩
    rw [List.map_cons, List.cons_append, scan_setting hknown.1 hg.pending, haccept, ok_bind, hscan]

end Scope

/-! ### Whole command lines -/

namespace Setting

/-- The settings in front of a subcommand, and after it, are those of a request and of its log.
    Each option comes as often as it has values, and one with several values has them in their
    order; nothing else matters. -/
structure AskFor (before after : List Setting) (exchange : String) (messages : List MessageType)
    (symbols : List String) (unsubscribe : Bool) (interval? level? directory? : Option String) :
    Prop where
  outside : ∀ s ∈ before, s.option = .logLevel ∨ s.option = .logDirectory
  help : valuesOf .help after = []
  exchange : valuesOf .exchange after = [exchange]
  /-- A message type goes by any of its names. -/
  messages : List.Forall₂ (fun spelling m => Vocabulary.parse spelling = .ok m)
    (valuesOf .message after) messages
  symbols : valuesOf .symbol after = symbols
  unsubscribe : (valuesOf .unsubscribe after).length = unsubscribe.toNat
  interval : valuesOf .interval after = interval?.toList
  /-- The settings of the log may be in either place. -/
  level : valuesOf .logLevel (before ++ after) = level?.toList
  directory : valuesOf .logDirectory (before ++ after) = directory?.toList

variable {before after : List Setting} {exchange : String} {messages : List MessageType}
  {symbols : List String} {unsubscribe : Bool} {interval? level? directory? : Option String}

/-- Settings that ask for something can be given together. -/
theorem AskFor.consistent
    (h : AskFor before after exchange messages symbols unsubscribe interval? level? directory?) :
    Consistent before ∧ Consistent after := by
  have hlevel : (valuesOf .logLevel before).length + (valuesOf .logLevel after).length ≤ 1 := by
    rw [← List.length_append, ← valuesOf_append, h.level]
    cases level? <;> simp
  have hdirectory :
      (valuesOf .logDirectory before).length + (valuesOf .logDirectory after).length ≤ 1 := by
    rw [← List.length_append, ← valuesOf_append, h.directory]
    cases directory? <;> simp
  refine ⟨fun o => ?_, fun o => ?_⟩
  · have hnone : ∀ o, o ≠ .logLevel → o ≠ .logDirectory → valuesOf o before = [] := by
      intro o hl hd
      refine valuesOf_eq_nil fun s hs => ?_
      rcases h.outside s hs with ho | ho <;> rw [ho]
      · exact hl.symm
      · exact hd.symm
    cases o with
    | logLevel => exact (Nat.le_add_right _ _).trans hlevel
    | logDirectory => exact (Nat.le_add_right _ _).trans hdirectory
    | _ =>
      rw [hnone _ (by decide) (by decide)]
      simp [Switch.Admits]
  · cases o with
    | help => exact h.help
    | logLevel => exact (Nat.le_add_left _ _).trans hlevel
    | logDirectory => exact (Nat.le_add_left _ _).trans hdirectory
    | exchange => rw [h.exchange]; exact le_rfl
    | message =>
      intro spelling hspelling
      obtain ⟨m, -, hm⟩ := exists_of_forall₂_left h.messages hspelling
      exact ⟨m, hm⟩
    | symbol => trivial
    | unsubscribe => exact h.unsubscribe.trans_le (Bool.toNat_le unsubscribe)
    | interval => rw [h.interval]; exact Option.length_toList_le

end Setting

/-- Options that list alike are the same. -/
theorem eq_of_toList_eq {α : Type} {x? y? : Option α} (h : x?.toList = y?.toList) : x? = y? := by
  cases x? <;> cases y? <;> simp_all

/-- The values of two places one after the other, the last one of which wins. -/
theorem or_eq_of_toList_append {α : Type} {x? y? z? : Option α}
    (h : x?.toList ++ y?.toList = z?.toList) : y?.or x? = z? := by
  cases x? <;> cases y? <;> cases z? <;> simp_all

section

variable {before after : List Setting} {exchange : String} {messages : List MessageType}
  {symbols : List String} {unsubscribe : Bool} {interval? level? directory? : Option String}

/-- The command is that of the request. -/
theorem Scope.command_eq {g : Given} (hg : g.Holds after)
    (h : Setting.AskFor before after exchange messages symbols unsubscribe interval? level?
      directory?)
    (hmessages : messages ≠ []) (hsymbols : symbols ≠ []) :
    Scope.wsCommands.command g =
      .ok (.wsCommands exchange messages symbols unsubscribe interval?) := by
  have hexchange' : g.exchange? = some exchange :=
    eq_of_toList_eq ((hg.values .exchange).symm.trans h.exchange)
  have hinterval' : g.interval? = interval? :=
    eq_of_toList_eq ((hg.values .interval).symm.trans h.interval)
  have hsymbols' : g.symbols = symbols := (hg.values .symbol).symm.trans h.symbols
  have hunsubscribe' : g.unsubscribe = unsubscribe := by
    have hcount := (hg.values .unsubscribe).symm.trans h.unsubscribe
    cases hu : g.unsubscribe <;> cases unsubscribe <;> simp_all
  have hmessages' : g.messages = messages := by
    -- both are what the spellings are read as
    have hparse := (mapM_eq_ok_iff _ _ _).mpr (hg.values .message)
    rw [(mapM_eq_ok_iff _ _ _).mpr h.messages] at hparse
    exact (Except.ok.inj hparse).symm
  simp [command, hexchange', hmessages', hsymbols', hmessages, hsymbols, hunsubscribe', hinterval']

/-- A subcommand ends the scope in front of it. -/
theorem Scope.scan_wsCommands {g : Given} (hpending : g.pending? = none) (rest : List String) :
    Scope.root.scan g false ("ws-commands" :: rest) = .ok (g, some (.wsCommands, rest)) := by
  have hawaits : g.awaitsValue = false := by rw [Given.awaitsValue, hpending]
  have hopens : Scope.root.opens? g "ws-commands" = some .wsCommands := by
    simp [opens?, hawaits, ofName?]
  rw [scan, if_neg Bool.false_ne_true, if_neg (by simp), hopens]

/-- **A request is asked for by its settings in any order.**  Nothing is lost of a value, be it
    empty or like an option. -/
theorem Invocation.ofArguments_settings
    (h : Setting.AskFor before after exchange messages symbols unsubscribe interval? level?
      directory?)
    (hmessages : messages ≠ []) (hsymbols : symbols ≠ []) :
    Invocation.ofArguments
        (before.map Setting.text ++ "ws-commands" :: after.map Setting.text) =
      .ok {
        command := .wsCommands exchange messages symbols unsubscribe interval?
        logLevel := level?.getD "info"
        logDirectory? := directory? } := by
  obtain ⟨hbefore, hafter⟩ := h.consistent
  have hknown : ∀ s ∈ before, s.option ∈ Scope.root.options := by
    intro s hs
    rcases h.outside s hs with ho | ho <;> rw [ho] <;> decide
  have hknown' : ∀ s ∈ after, s.option ∈ Scope.wsCommands.options := by
    intro s _
    cases s.option <;> decide
  -- each scope holds the settings that stand in it
  obtain ⟨outer, houter, hscan⟩ :=
    Scope.exists_scan_settings Given.holds_nil hbefore hknown
      ("ws-commands" :: after.map Setting.text)
  obtain ⟨inner, hinner, hscan'⟩ := Scope.exists_scan_settings Given.holds_nil hafter hknown' []
  rw [List.nil_append] at houter hinner
  rw [List.append_nil] at hscan'
  have hlevel : inner.logLevel?.or outer.logLevel? = level? := by
    apply or_eq_of_toList_append
    rw [← houter.values .logLevel, ← hinner.values .logLevel, ← Setting.valuesOf_append,
      h.level]
  have hdirectory : inner.logDirectory?.or outer.logDirectory? = directory? := by
    apply or_eq_of_toList_append
    rw [← houter.values .logDirectory, ← hinner.values .logDirectory, ← Setting.valuesOf_append,
      h.directory]
  rw [ofArguments, hscan, Scope.scan_wsCommands houter.pending, ok_bind]
  simp only [hscan', Scope.scan, ok_bind, Given.settle_eq hinner.pending,
    Scope.command_eq hinner h hmessages hsymbols, Given.settle_eq houter.pending, hlevel,
    hdirectory]
  rfl

end

/-- Values that are empty, begin with a dash or hold an equals sign, and a message type in another
    spelling. -/
theorem Invocation.ofArguments_settings_verbatim :
    Invocation.ofArguments ["--log-dir=", "ws-commands", "--symbol=-s", "--msg-type= TRADE ",
        "--unsubscribe", "--exchange=", "--symbol=a=b", "--log-level==", "--interval=--help",
        "--msg-type=l2_topk"] =
      .ok {
        command := .wsCommands "" [.trade, .l2TopK] ["-s", "a=b"] true (some "--help")
        logLevel := "="
        logDirectory? := some "" } := by
  have h := @Invocation.ofArguments_settings [⟨.logDirectory, ""⟩]
    [⟨.symbol, "-s"⟩, ⟨.message, " TRADE "⟩, ⟨.unsubscribe, ""⟩, ⟨.exchange, ""⟩, ⟨.symbol, "a=b"⟩,
      ⟨.logLevel, "="⟩, ⟨.interval, "--help"⟩, ⟨.message, "l2_topk"⟩]
    "" [.trade, .l2TopK] ["-s", "a=b"] true (some "--help") (some "=") (some "")
    { outside := by decide
      help := rfl
      exchange := rfl
      messages := .cons (by decide +kernel) (.cons (by decide +kernel) .nil)
      symbols := rfl
      unsubscribe := rfl
      interval := rfl
      level := rfl
      directory := rfl }
    (by decide) (by decide)
  simpa [Setting.text, Switch.long, Switch.takesValue] using h

end MarketFeed
