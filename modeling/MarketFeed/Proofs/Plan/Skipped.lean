import MarketFeed.Plan.Basic
import MarketFeed.Proofs.Venue.Refusal

namespace MarketFeed

/-!
# Plans — which entries are skipped, and why

An entry is checked against the catalogue first.  Its request is made only then, and a request for
nothing is made without a look at its exchange.

* `Plan.Entry.IsValid`, `Plan.Entry.Invalid` — an entry passes the check, or why it does not.
* `Venue.Refuses`, `Plan.Entry.Unserved` — why the request of a valid entry is refused.
* `Plan.Entry.commands_eq_error_iff` — an entry is skipped for one of these reasons.
* `Plan.validate_eq_error_iff` — the first invalid entry decides the error of a plan.
* `Plan.skipped_iff` — which entries are skipped, in a plan that is checked and in one that is not.
-/

/-! ### The check -/

/-- The exchange is known and lists the market. -/
def Plan.Entry.IsValid (entry : Plan.Entry) : Prop :=
  ∃ e : Exchange, Vocabulary.parse? entry.exchange = some e ∧ entry.market ∈ e.marketTypes

/-- Why an entry does not pass the check. -/
inductive Plan.Entry.Invalid (entry : Plan.Entry) : Error → Prop
  | unknown (he : Vocabulary.parse? (α := Exchange) entry.exchange = none) :
      entry.Invalid (.unknownName .exchange entry.exchange)
  | unlisted {e : Exchange} (he : Vocabulary.parse? entry.exchange = some e)
      (hmarket : entry.market ∉ e.marketTypes) :
      entry.Invalid (.invalidPlan (e.code ++ " has no " ++ entry.market.code ++ " market"))

variable {entry : Plan.Entry} {err : Error}

/-- A valid entry passes. -/
theorem Plan.Entry.validate_of_isValid (h : entry.IsValid) : entry.validate = .ok () := by
  obtain ⟨e, he, hmarket⟩ := h
  have hlists : e.lists entry.market = true := (e.lists_iff _).mpr hmarket
  rw [Plan.Entry.validate, Vocabulary.parse_eq_ok he, ok_bind, if_pos hlists, pure_eq_ok]

/-- An invalid entry is refused for the first reason that there is. -/
theorem Plan.Entry.validate_of_invalid (h : entry.Invalid err) : entry.validate = .error err := by
  cases h with
  | unknown he =>
    rw [Plan.Entry.validate, Vocabulary.parse_eq_error he, error_bind]
    rfl
  | unlisted he hmarket =>
    rw [Plan.Entry.validate, Vocabulary.parse_eq_ok he, ok_bind,
      if_neg (fun hlists => hmarket ((Exchange.lists_iff _ _).mp hlists))]
    rfl

/-- An entry is valid or there is a reason why it is not. -/
theorem Plan.Entry.isValid_or_invalid (entry : Plan.Entry) :
    entry.IsValid ∨ ∃ err, entry.Invalid err := by
  cases he : Vocabulary.parse? (α := Exchange) entry.exchange with
  | none => exact .inr ⟨_, .unknown he⟩
  | some e =>
    by_cases hmarket : entry.market ∈ e.marketTypes
    · exact .inl ⟨e, he, hmarket⟩
    · exact .inr ⟨_, .unlisted he hmarket⟩

/-- The check passes for just the valid entries. -/
theorem Plan.Entry.validate_eq_ok_iff : entry.validate = .ok () ↔ entry.IsValid := by
  refine ⟨fun h => ?_, Plan.Entry.validate_of_isValid⟩
  -- an entry that is not valid is refused, so it does not pass
  rcases entry.isValid_or_invalid with hvalid | ⟨err, hinvalid⟩
  · exact hvalid
  · rw [Plan.Entry.validate_of_invalid hinvalid] at h
    cases h

/-- The check fails for just the reasons there are. -/
theorem Plan.Entry.validate_eq_error_iff : entry.validate = .error err ↔ entry.Invalid err := by
  refine ⟨fun h => ?_, Plan.Entry.validate_of_invalid⟩
  rcases entry.isValid_or_invalid with hvalid | ⟨err', hinvalid⟩
  · rw [Plan.Entry.validate_of_isValid hvalid] at h
    cases h
  · rw [Plan.Entry.validate_of_invalid hinvalid] at h
    rwa [← Except.error.inj h]

/-! ### Refused requests -/

/-- The venue has a channel for the message type, and the interval if the channel needs it. -/
def Venue.Serves (v : Venue) (params : Params) (m : MessageType) : Prop :=
  m ∈ v.messages ∧ (m = .candlestick → (params.get? "interval").isSome)

/-- Why a venue refuses message types: it does not serve all of them, and the first that it does not
    serve decides the error. -/
inductive Venue.Refuses (v : Venue) (params : Params) (messages : List MessageType) : Error → Prop
  | noChannel {before after : List MessageType} {m : MessageType}
      (hmessages : messages = before ++ m :: after) (hbefore : ∀ b ∈ before, v.Serves params b)
      (hm : m ∉ v.messages) : v.Refuses params messages (.noChannel v.exchange m)
  | noInterval {before after : List MessageType}
      (hmessages : messages = before ++ .candlestick :: after)
      (hbefore : ∀ b ∈ before, v.Serves params b) (hm : .candlestick ∈ v.messages)
      (hinterval : params.get? "interval" = none) :
      v.Refuses params messages (.missingParam "interval")

/-- Why the request of an entry is refused, if it is for something. -/
inductive Plan.Entry.Unserved (entry : Plan.Entry) : Error → Prop
  | noFormat {e : Exchange} (he : Vocabulary.parse? entry.exchange = some e)
      (hv : e.venue? = none) : entry.Unserved (.noFormat e)
  | refused {e : Exchange} {v : Venue} {err : Error}
      (he : Vocabulary.parse? entry.exchange = some e) (hv : e.venue? = some v)
      (h : v.Refuses entry.selection.params entry.selection.messages err) : entry.Unserved err

/-- The first message type that is refused is the first that is not served. -/
theorem Venue.findSome?_refusal?_iff {v : Venue} {params : Params} {messages : List MessageType} :
    messages.findSome? (v.refusal? params) = some err ↔ v.Refuses params messages err := by
  -- what is in front of the first refusal is served
  rw [List.findSome?_eq_some_iff]
  simp only [Venue.refusal?_eq_none_iff, Venue.refusal?_eq_some_iff]
  constructor
  · rintro ⟨before, m, after, hmessages, ⟨hm, rfl⟩ | ⟨hm, rfl, hinterval, rfl⟩, hbefore⟩
    · exact .noChannel hmessages hbefore hm
    · exact .noInterval hmessages hbefore hm hinterval
  · rintro (⟨hmessages, hbefore, hm⟩ | ⟨hmessages, hbefore, hm, hinterval⟩)
    · exact ⟨_, _, _, hmessages, .inl ⟨hm, rfl⟩, hbefore⟩
    · exact ⟨_, _, _, hmessages, .inr ⟨hm, rfl, hinterval, rfl⟩, hbefore⟩

/-- The refusals of a request whose exchange is known. -/
theorem Plan.Entry.refusal?_eq_some_iff (h : entry.IsValid) :
    Request.refusal? entry.exchange entry.selection.messages entry.selection.params = some err ↔
      entry.Unserved err := by
  obtain ⟨e, he, -⟩ := h
  simp only [Request.refusal?, he]
  constructor
  · intro hrefusal
    cases hv : e.venue? with
    | none =>
      simp only [hv, Option.some.injEq] at hrefusal
      exact hrefusal ▸ .noFormat he hv
    | some v =>
      simp only [hv] at hrefusal
      exact .refused he hv (Venue.findSome?_refusal?_iff.mp hrefusal)
  · -- the text names one exchange, so the reason is about that one
    rintro (⟨he', hv⟩ | ⟨he', hv, hrefused⟩)
    · obtain rfl := Option.some.inj (he.symm.trans he')
      simp only [hv]
    · obtain rfl := Option.some.inj (he.symm.trans he')
      simp only [hv]
      exact Venue.findSome?_refusal?_iff.mpr hrefused

/-! ### Entries -/

/-- A valid entry builds what its request builds. -/
theorem Plan.Entry.build_of_isValid (h : entry.IsValid) : entry.build = entry.request.build := by
  rw [Plan.Entry.build, Plan.Entry.validate_of_isValid h, ok_bind]

/-- The commands of a valid entry are those of its request. -/
theorem Plan.Entry.commands_of_isValid (h : entry.IsValid) :
    entry.commands = entry.request.commands := by
  rw [Plan.Entry.commands, Plan.Entry.build_of_isValid h, Request.commands]

/-- An entry that does not pass the check fails with its error. -/
theorem Plan.Entry.commands_of_invalid (h : entry.Invalid err) : entry.commands = .error err := by
  rw [Plan.Entry.commands, Plan.Entry.build, Plan.Entry.validate_of_invalid h, error_bind,
    fmap_error]

/-- A valid entry for nothing has no commands, whether the format of its exchange is known or
    not. -/
theorem Plan.Entry.commands_of_isEmpty (h : entry.IsValid) (hempty : entry.selection.isEmpty) :
    entry.commands = .ok [] := by
  rw [Plan.Entry.commands_of_isValid h]
  exact Request.commands_of_isEmpty (r := entry.request) hempty

/-- **Why an entry is skipped**: it is not valid, or it is for something that is refused. -/
theorem Plan.Entry.commands_eq_error_iff :
    entry.commands = .error err ↔
      entry.Invalid err ∨ (entry.IsValid ∧ ¬ entry.selection.isEmpty ∧ entry.Unserved err) := by
  rcases entry.isValid_or_invalid with h | ⟨err', h⟩
  · have hnot : ¬ entry.Invalid err := by
      rw [← Plan.Entry.validate_eq_error_iff, Plan.Entry.validate_of_isValid h]
      exact fun hcontra => by cases hcontra
    by_cases hempty : entry.selection.isEmpty
    · -- the exchange is looked up once more only for a request that is for something
      rw [Plan.Entry.commands_of_isEmpty h hempty]
      simp [hnot, hempty]
    · have hrequest : entry.request.commands = .error err ↔ entry.Unserved err :=
        (Request.commands_eq_error_iff (r := entry.request) hempty err).trans
          (Plan.Entry.refusal?_eq_some_iff h)
      rw [Plan.Entry.commands_of_isValid h, hrequest]
      simp [hnot, h, hempty]
  · -- the check comes first, so nothing else is looked at
    have hnot : ¬ entry.IsValid := by
      rw [← Plan.Entry.validate_eq_ok_iff, Plan.Entry.validate_of_invalid h]
      exact fun hcontra => by cases hcontra
    rw [Plan.Entry.commands_of_invalid h, ← Plan.Entry.validate_eq_error_iff,
      Plan.Entry.validate_of_invalid h]
    simp [hnot]

/-! ### Plans -/

/-- A plan passes the check when all of its entries do. -/
theorem Plan.validate_eq_ok_iff {p : Plan} :
    p.validate = .ok () ↔ ∀ entry ∈ p.entries, entry.IsValid := by
  rw [Plan.validate, forM_eq_ok_iff]
  simp only [Plan.Entry.validate_eq_ok_iff]

/-- The first entry that does not pass the check decides the error of a plan. -/
theorem Plan.validate_eq_error_iff {p : Plan} :
    p.validate = .error err ↔ ∃ before entry after, p.entries = before ++ entry :: after ∧
      (∀ b ∈ before, b.IsValid) ∧ entry.Invalid err := by
  rw [Plan.validate, forM_eq_error_iff]
  simp only [Plan.Entry.validate_eq_ok_iff, Plan.Entry.validate_eq_error_iff]

/-- **Which entries are skipped.**  An entry has no commands to print when its exchange is unknown,
    when the exchange does not list its market, or when it is for something and the format of the
    exchange is not known or a message type is not served; the first of these decides the error.  A
    valid entry for nothing is never skipped.  A plan passes the check when all entries are valid,
    and fails with the error of the first that is not; so in a plan that passes, an entry is skipped
    for something that it asks for. -/
theorem Plan.skipped_iff (p : Plan) :
    (∀ entry : Plan.Entry,
      (∀ err, entry.commands = .error err ↔
        entry.Invalid err ∨
        (entry.IsValid ∧ entry.selection.messages ≠ [] ∧ entry.selection.symbols ≠ [] ∧
          entry.Unserved err)) ∧
      (entry.IsValid → entry.selection.messages = [] ∨ entry.selection.symbols = [] →
        entry.commands = .ok [])) ∧
    (p.validate = .ok () ↔ ∀ entry ∈ p.entries, entry.IsValid) ∧
    (∀ err, p.validate = .error err ↔ ∃ before entry after, p.entries = before ++ entry :: after ∧
      (∀ b ∈ before, b.IsValid) ∧ entry.Invalid err) ∧
    (p.validate = .ok () → ∀ entry ∈ p.entries, ∀ err, entry.commands = .error err →
      entry.selection.messages ≠ [] ∧ entry.selection.symbols ≠ [] ∧ entry.Unserved err) := by
  have hempty : ∀ s : Selection, s.isEmpty ↔ s.messages = [] ∨ s.symbols = [] := by
    intro s
    simp [Selection.isEmpty]
  have hskipped : ∀ (entry : Plan.Entry) (err : Error), entry.commands = .error err ↔
      entry.Invalid err ∨ (entry.IsValid ∧ entry.selection.messages ≠ [] ∧
        entry.selection.symbols ≠ [] ∧ entry.Unserved err) := by
    intro entry err
    rw [Plan.Entry.commands_eq_error_iff, hempty, not_or, and_assoc]
  refine ⟨fun entry => ⟨hskipped entry, fun h hnothing => ?_⟩, Plan.validate_eq_ok_iff,
    fun err => Plan.validate_eq_error_iff, fun hplan entry hentry err herr => ?_⟩
  · exact Plan.Entry.commands_of_isEmpty h ((hempty _).mpr hnothing)
  · -- a valid entry is skipped for the second reason alone
    have hvalid := Plan.validate_eq_ok_iff.mp hplan entry hentry
    rcases (hskipped entry err).mp herr with hinvalid | ⟨-, hmessages, hsymbols, hunserved⟩
    · rw [← Plan.Entry.validate_eq_error_iff, Plan.Entry.validate_of_isValid hvalid] at hinvalid
      cases hinvalid
    · exact ⟨hmessages, hsymbols, hunserved⟩

/-- A plan that passes the check with two entries that are skipped and one for nothing; behind them
    an entry for a market that is not listed makes it fail. -/
theorem Plan.skipped_iff_kraken :
    ∃ kraken okx nothing bitmex : Plan.Entry,
      Plan.validate { entries := [kraken, okx, nothing] } = .ok () ∧
      kraken.commands = .error (.noFormat .kraken) ∧
      okx.commands = .error (.missingParam "interval") ∧ okx.Unserved (.missingParam "interval") ∧
      nothing.exchange = "kraken" ∧ nothing.commands = .ok [] ∧
      Plan.validate { entries := [kraken, okx, nothing, bitmex] } =
        .error (.invalidPlan "bitmex has no spot market") := by
  let kraken : Plan.Entry := {
    exchange := "kraken", market := .spot
    selection := { messages := [.trade], symbols := ["XBT/USD"] } }
  let okx : Plan.Entry := {
    exchange := " OKX", market := .spot
    selection := { messages := [.trade, .candlestick], symbols := ["BTC-USDT"] } }
  let nothing : Plan.Entry := { kraken with selection := { messages := [.trade], symbols := [] } }
  let bitmex : Plan.Entry := { kraken with exchange := "bitmex" }
  have hkraken : Vocabulary.parse? (α := Exchange) "kraken" = some .kraken := by decide +kernel
  have hokx : Vocabulary.parse? (α := Exchange) " OKX" = some .okx := by decide +kernel
  have hbitmex : Vocabulary.parse? (α := Exchange) "bitmex" = some .bitmex := by decide +kernel
  have hvalid : ∀ entry ∈ [kraken, okx, nothing], entry.IsValid := by
    rw [List.forall_mem_cons, List.forall_mem_cons, List.forall_mem_singleton]
    exact ⟨⟨_, hkraken, by decide⟩, ⟨_, hokx, by decide⟩, ⟨_, hkraken, by decide⟩⟩
  have htext : Exchange.bitmex.code ++ " has no " ++ MarketType.spot.code ++ " market" =
      "bitmex has no spot market" := by decide +kernel
  have hinvalid : bitmex.Invalid (.invalidPlan "bitmex has no spot market") :=
    htext ▸ .unlisted hbitmex (by decide)
  have hmissing : okx.commands = .error (.missingParam "interval") := by decide +kernel
  obtain ⟨hentries, hok, -, hskipped⟩ := Plan.skipped_iff { entries := [kraken, okx, nothing] }
  obtain ⟨-, -, herror, -⟩ := Plan.skipped_iff { entries := [kraken, okx, nothing, bitmex] }
  refine ⟨kraken, okx, nothing, bitmex, hok.mpr hvalid, ?_, hmissing,
    (hskipped (hok.mpr hvalid) okx (by simp) _ hmissing).2.2, rfl,
    (hentries nothing).2 (hvalid nothing (by simp)) (.inr rfl),
    (herror _).mpr ⟨[kraken, okx, nothing], bitmex, [], rfl, hvalid, hinvalid⟩⟩
  exact ((hentries kraken).1 _).mpr
    (.inr ⟨hvalid kraken (by simp), by decide, by decide, .noFormat hkraken rfl⟩)

end MarketFeed
