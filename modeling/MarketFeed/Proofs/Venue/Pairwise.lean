import MarketFeed.Proofs.Venue.Refusal
import MarketFeed.Proofs.Venue.Text

namespace MarketFeed

/-!
# Requests — pair by pair

A request for many message types and symbols is the requests for one of each, put together.

* `Selection.only`, `Request.only` — one pair of a selection.
* `Venue.commands_of_single`, `Venue.commands_of_batched` — the commands of a venue as one walk over
  the pairs, whose results are put side by side, or into one command.
* `Request.commands_pairwise` — the commands of a request from those of its pairs.
-/

open Json

/-! ### One pair -/

/-- The pair of a message type and a symbol alone. -/
def Selection.only (s : Selection) (p : MessageType × String) : Selection :=
  { s with messages := [p.1], symbols := [p.2] }

/-- The pair of a message type and a symbol alone. -/
def Request.only (r : Request) (p : MessageType × String) : Request :=
  { r with selection := r.selection.only p }

/-- The pairs of a selection, message type by message type. -/
def Selection.pairs (s : Selection) : List (MessageType × String) := s.messages ×ˢ s.symbols

section Only

variable (s : Selection) (p : MessageType × String)

@[simp] theorem Selection.pairs_only : (s.only p).pairs = [p] := rfl

@[simp] theorem Selection.subscribe_only : (s.only p).subscribe = s.subscribe := rfl

@[simp] theorem Selection.params_only : (s.only p).params = s.params := rfl

end Only

/-! ### Walks over the pairs -/

variable {v : Venue}

/-- A venue with single commands puts the commands of the pairs side by side. -/
theorem Venue.commands_of_single {format : Single} (h : v.format = .single format) (s : Selection) :
    v.commands s = List.map Frame.text <$> s.pairs.mapM fun p =>
      v.resolve s.params p.1 (format.frame? s.subscribe p.2 p.1) := by
  rw [Venue.commands, Venue.frames, h]
  dsimp only
  rw [forEachPair_eq_mapM]
  rfl

/-- A venue with batched commands puts the topics of the pairs into one command. -/
theorem Venue.commands_of_batched {format : Batched} (h : v.format = .batched format)
    (s : Selection) :
    v.commands s = (fun topics => [(format.frame s.subscribe topics).text]) <$>
      s.pairs.mapM fun p => v.resolve s.params p.1 (format.topic? p.2 p.1) := by
  rw [Venue.commands, Venue.frames, h]
  dsimp only
  rw [forEachPair_eq_mapM, Selection.pairs]
  generalize (s.messages ×ˢ s.symbols).mapM (fun p =>
    v.resolve s.params p.1 (format.topic? p.2 p.1)) = topics
  cases topics <;> rfl

/-- The first pair that fails on its own decides the error. -/
theorem Venue.commands_eq_error_of_pair {s : Selection} {before after : List (MessageType × String)}
    {p : MessageType × String} {e : Error} (hpairs : s.pairs = before ++ p :: after)
    (hbefore : ∀ b ∈ before, ∃ commands, v.commands (s.only b) = .ok commands)
    (hp : v.commands (s.only p) = .error e) : v.commands s = .error e := by
  cases h : v.format with
  | batched format =>
    simp only [Venue.commands_of_batched h, Selection.pairs_only, Selection.subscribe_only,
      Selection.params_only] at hbefore hp ⊢
    rw [hpairs]
    exact joined_eq_error hbefore hp
  | single format =>
    simp only [Venue.commands_of_single h, Selection.pairs_only, Selection.subscribe_only,
      Selection.params_only] at hbefore hp ⊢
    rw [hpairs]
    exact joined_eq_error hbefore hp

variable {s : Selection} {results : List (List String)}

/-- The commands of a venue with single commands are those of the pairs. -/
theorem Venue.commands_eq_flatten {format : Single} (h : v.format = .single format)
    (hresults : List.Forall₂ (fun p commands => v.commands (s.only p) = .ok commands)
      s.pairs results) :
    v.commands s = .ok results.flatten := by
  simp only [Venue.commands_of_single h, Selection.pairs_only, Selection.subscribe_only,
      Selection.params_only] at hresults ⊢
  obtain ⟨frames, rfl, hframes⟩ := exists_joined_eq_ok hresults
  have hflatten : (frames.map fun f => [f].map Frame.text).flatten = frames.map Frame.text := by
    rw [← List.flatMap_def]
    exact List.flatMap_pure_eq_map _ _
  rw [hflatten]
  exact hframes

/-- The command of a venue with batched commands holds what the commands of the pairs hold. -/
theorem Venue.commands_eq_intercalate {format : Batched} (h : v.format = .batched format)
    (hresults : List.Forall₂ (fun p commands => v.commands (s.only p) = .ok commands)
      s.pairs results) :
    ∃ items : List String,
      results = items.map (fun a => [v.head s.subscribe ++ "[" ++ a ++ "]" ++ v.tail]) ∧
      v.commands s =
        .ok [v.head s.subscribe ++ "[" ++ String.intercalate "," items ++ "]" ++ v.tail] := by
  simp only [Venue.commands_of_batched h, Selection.pairs_only, Selection.subscribe_only,
      Selection.params_only] at hresults ⊢
  obtain ⟨topics, rfl, htopics⟩ := exists_joined_eq_ok hresults
  have htext : ∀ ts : List Json, (format.frame s.subscribe ts).text = v.head s.subscribe ++ "["
      ++ String.intercalate "," (ts.map compact) ++ "]" ++ v.tail := by
    intro ts
    rw [Venue.frame_text h, compact_array]
    simp only [String.append_assoc]
  refine ⟨topics.map compact, ?_, ?_⟩
  · rw [List.map_map]
    apply List.map_congr_left
    intro topic _
    rw [Function.comp_apply, htext, List.map_singleton, String.intercalate_singleton]
  · rw [htopics, htext]

/-! ### Requests -/

/-- A pair of a request is passed on as the whole request is. -/
theorem Request.commands_only {r : Request} {e : Exchange}
    (he : Vocabulary.parse? r.exchange = some e) (hv : e.venue? = some v)
    (p : MessageType × String) : (r.only p).commands = v.commands (r.selection.only p) :=
  Request.commands_of_not_isEmpty (r := r.only p) (fun h => by cases h) he hv

/-- **A request is its pairs put together.**  If the request for one of the pairs fails, the whole
    request fails with the error of the first that does.  If none does, a venue with single commands
    has all of theirs, in order.  A venue with batched commands has one for each pair, which holds one
    item, and one for the whole request, which holds all of these items in order; the texts around
    the items depend on the venue and the direction alone. -/
theorem Request.commands_pairwise (v : Venue) (subscribe : Bool) :
    ∃ head tail : String, ∀ (r : Request) (e : Exchange),
      Vocabulary.parse? r.exchange = some e → e.venue? = some v →
      r.selection.subscribe = subscribe → r.selection.messages ≠ [] → r.selection.symbols ≠ [] →
      (∀ (before after : List (MessageType × String)) (p : MessageType × String) (err : Error),
        r.selection.messages ×ˢ r.selection.symbols = before ++ p :: after →
        (∀ b ∈ before, ∃ commands, (r.only b).commands = .ok commands) →
        (r.only p).commands = .error err → r.commands = .error err) ∧
      ∀ results : List (List String),
        List.Forall₂ (fun p commands => (r.only p).commands = .ok commands)
          (r.selection.messages ×ˢ r.selection.symbols) results →
        (v ∈ [.bitfinex, .ftx, .huobi] → r.commands = .ok results.flatten) ∧
        (v ∈ [.binance, .bitmex, .bybit, .deribit, .okex, .okx] → ∃ items : List String,
          results = items.map (fun a => [head ++ "[" ++ a ++ "]" ++ tail]) ∧
          r.commands = .ok [head ++ "[" ++ String.intercalate "," items ++ "]" ++ tail]) := by
  refine ⟨v.head subscribe, v.tail, ?_⟩
  rintro r e he hv rfl hmessages hsymbols
  have hne : ¬ r.selection.isEmpty := by simp [Selection.isEmpty, hmessages, hsymbols]
  have hcommands : r.commands = v.commands r.selection := Request.commands_of_not_isEmpty hne he hv
  simp only [Request.commands_only he hv, hcommands]
  refine ⟨fun before after p err => Venue.commands_eq_error_of_pair, fun results hresults => ?_⟩
  cases h : v.format with
  | batched format =>
    refine ⟨fun hmem => ?_, fun _ => Venue.commands_eq_intercalate h hresults⟩
    -- none of these three is batched
    simp only [List.mem_cons, List.not_mem_nil, or_false] at hmem
    rcases hmem with rfl | rfl | rfl <;> cases h
  | single format =>
    refine ⟨fun _ => Venue.commands_eq_flatten h hresults, fun hmem => ?_⟩
    -- none of these six is single
    simp only [List.mem_cons, List.not_mem_nil, or_false] at hmem
    rcases hmem with rfl | rfl | rfl | rfl | rfl | rfl <;> cases h

/-- OKEx takes a message type twice, and refuses one that it has no channel for behind one that it
    has. -/
theorem Request.commands_pairwise_okex :
    ∃ (r : Request) (first second : String),
      r.selection.messages = [.ticker, .ticker] ∧ r.selection.symbols = ["BTC-USDT"] ∧
      (r.only (.ticker, "BTC-USDT")).commands =
        .ok ["\x7b\"op\":\"subscribe\",\"args\":[\"spot/ticker:BTC-USDT\"]\x7d"] ∧
      (∃ head tail, r.commands = .ok [head ++ "[" ++ first ++ "," ++ second ++ "]" ++ tail] ∧
        head ++ "[" ++ first ++ "]" ++ tail =
          "\x7b\"op\":\"subscribe\",\"args\":[\"spot/ticker:BTC-USDT\"]\x7d") ∧
      Request.commands
          { r with selection := { r.selection with messages := [.ticker, .other, .l3Event] } } =
        .error (.noChannel .okex .other) := by
  let r : Request := {
    exchange := "okex"
    selection := { messages := [.ticker, .ticker], symbols := ["BTC-USDT"] } }
  let refused : Request :=
    { r with selection := { r.selection with messages := [.ticker, .other, .l3Event] } }
  let text : String := "\x7b\"op\":\"subscribe\",\"args\":[\"spot/ticker:BTC-USDT\"]\x7d"
  have hokex : Vocabulary.parse? (α := Exchange) "okex" = some .okex := by decide +kernel
  have hpair : (r.only (.ticker, "BTC-USDT")).commands = .ok [text] := by decide +kernel
  have hother : (refused.only (.other, "BTC-USDT")).commands = .error (.noChannel .okex .other) := by
    decide +kernel
  obtain ⟨head, tail, hall⟩ := Request.commands_pairwise .okex true
  obtain ⟨-, hwhole⟩ := hall r .okex hokex rfl rfl (by simp [r]) (by simp [r])
  obtain ⟨items, hitems, hcommands⟩ :=
    (hwhole [[text], [text]] (.cons hpair (.cons hpair .nil))).2 (by decide)
  obtain ⟨herror, -⟩ := hall refused .okex hokex rfl rfl (by simp [refused]) (by simp [refused, r])
  have hrefused : refused.commands = .error (.noChannel .okex .other) :=
    herror [(.ticker, "BTC-USDT")] [(.l3Event, "BTC-USDT")] (.other, "BTC-USDT") _ rfl
      (fun b hb => ⟨[text], List.mem_singleton.mp hb ▸ hpair⟩) hother
  have hlength : items.length = 2 := by
    rw [← List.length_map, ← hitems, List.length_cons, List.length_singleton]
  obtain ⟨first, second, rfl⟩ := List.length_eq_two.mp hlength
  have hfirst : head ++ "[" ++ first ++ "]" ++ tail = text := by
    have hhead := congrArg List.head? hitems
    rw [List.map_cons, List.head?_cons, List.head?_cons, Option.some.injEq] at hhead
    exact (List.singleton_inj.mp hhead).symm
  refine ⟨r, first, second, rfl, rfl, hpair, ⟨head, tail, ?_, hfirst⟩, hrefused⟩
  rw [hcommands, String.intercalate_cons_cons, String.intercalate_singleton]
  simp only [String.append_assoc]

end MarketFeed
