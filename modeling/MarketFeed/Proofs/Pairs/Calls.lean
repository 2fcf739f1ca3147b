import MarketFeed.Proofs.Pairs

namespace MarketFeed

/-!
# Walking over pairs — the calls

A visit may keep a state from one call to the next, and what it did to the state before it failed is
there after the walk.  So a visit can write its own calls down, which tells what the walk did.

* `Call`, `recorded` — one call, and a visit that writes down its calls.
* `Threads` — calls one after the other, each in the state that the one before it left.
* `Walks` — how the calls come about, pair by pair.
* `exists_walks` — every walk over pairs comes about so, and is what is written down of it.
* `CallsOf`, `forEachPair_calls` — which calls a walk over pairs makes, and what comes of them.
-/

variable {α β γ σ ε : Type}

/-! ### Calls -/

/-- A call of a visit: the pair it is made on, the states around it, and what it gives. -/
structure Call (α β γ σ ε : Type) where
  first : α
  second : β
  before : σ
  result : Except ε γ
  after : σ

/-- The visit, writing down its calls beside its own state. -/
def recorded (visit : α → β → ExceptT ε (StateM σ) γ) (x : α) (y : β) :
    ExceptT ε (StateM (σ × List (Call α β γ σ ε))) γ :=
  ExceptT.mk fun (s, calls) =>
    let (result, after) := (visit x y).run.run s
    (result, after, calls ++ [{ first := x, second := y, before := s, result, after }])

/-- The calls are those of the visit, from the first state on, each in the state that the one before
    it left, and the last of them leaves the last state. -/
def Threads (visit : α → β → ExceptT ε (StateM σ) γ) : σ → List (Call α β γ σ ε) → σ → Prop
  | s, [], last => last = s
  | s, call :: calls, last => call.before = s ∧
      (visit call.first call.second).run.run s = (call.result, call.after) ∧
      Threads visit call.after calls last

/-! ### One step -/

section Step

variable {δ : Type} {x : ExceptT ε (StateM σ) γ} {f : γ → ExceptT ε (StateM σ) δ} {s s' : σ}

/-- What comes after a step that succeeds goes on in the state the step left. -/
theorem run_bind_of_ok {z : γ} (h : x.run.run s = (.ok z, s')) :
    (x >>= f).run.run s = (f z).run.run s' := by
  rw [ExceptT.run_bind, StateT.run_bind, h]
  rfl

/-- Nothing comes after a step that fails. -/
theorem run_bind_of_error {e : ε} (h : x.run.run s = (.error e, s')) :
    (x >>= f).run.run s = (.error e, s') := by
  rw [ExceptT.run_bind, StateT.run_bind, h]
  rfl

/-- A step whose result is changed afterwards leaves the same state. -/
theorem run_bind_pure {result : Except ε γ} (g : γ → δ) (h : x.run.run s = (result, s')) :
    (x >>= fun z => pure (g z)).run.run s = (result.map g, s') := by
  cases result with
  | error e => exact run_bind_of_error h
  | ok z => exact run_bind_of_ok h

end Step

/-! ### How the calls come about -/

/-- The calls that a walk over some pairs makes from a state on, what comes of it, and the state that
    it leaves.  A call that fails ends the walk. -/
inductive Walks (visit : α → β → ExceptT ε (StateM σ) γ) :
    List (α × β) → σ → List (Call α β γ σ ε) → Except ε (List γ) → σ → Prop
  | done {s : σ} : Walks visit [] s [] (.ok []) s
  | stopped {x : α} {y : β} {ps : List (α × β)} {s after : σ} {e : ε}
      (h : (visit x y).run.run s = (.error e, after)) :
      Walks visit ((x, y) :: ps) s [⟨x, y, s, .error e, after⟩] (.error e) after
  | next {x : α} {y : β} {ps : List (α × β)} {s after last : σ} {z : γ}
      {calls : List (Call α β γ σ ε)} {result : Except ε (List γ)}
      (h : (visit x y).run.run s = (.ok z, after)) (hrest : Walks visit ps after calls result last) :
      Walks visit ((x, y) :: ps) s (⟨x, y, s, .ok z, after⟩ :: calls) (result.map (z :: ·)) last

variable {visit : α → β → ExceptT ε (StateM σ) γ}

/-- What a call writes down. -/
theorem run_recorded {x : α} {y : β} {s after : σ} {result : Except ε γ}
    (h : (visit x y).run.run s = (result, after)) (calls : List (Call α β γ σ ε)) :
    (recorded visit x y).run.run (s, calls) =
      (result, after, calls ++ [{ first := x, second := y, before := s, result, after }]) :=
  congrArg (fun r : Except ε γ × σ =>
    (r.1, r.2, calls ++ [Call.mk x y s r.1 r.2])) h

/-- **Every walk comes about so**, and what is written down of it are its calls. -/
theorem exists_walks (visit : α → β → ExceptT ε (StateM σ) γ) (ps : List (α × β)) (s : σ) :
    ∃ calls result last, Walks visit ps s calls result last ∧
      (ps.mapM fun p => visit p.1 p.2).run.run s = (result, last) ∧
      ∀ before, (ps.mapM fun p => recorded visit p.1 p.2).run.run (s, before) =
        (result, last, before ++ calls) := by
  induction ps generalizing s with
  | nil => exact ⟨[], .ok [], s, .done, rfl, fun before => by rw [List.append_nil]; rfl⟩
  | cons p ps ih =>
    obtain ⟨x, y⟩ := p
    obtain ⟨result, after, hvisit⟩ : ∃ result after, (visit x y).run.run s = (result, after) :=
      ⟨_, _, rfl⟩
    cases result with
    | error e =>
      -- the walk ends with the call that fails, whether calls are written down or not
      refine ⟨_, _, _, .stopped hvisit, ?_, fun before => ?_⟩
      · rw [List.mapM_cons]
        exact run_bind_of_error hvisit
      · rw [List.mapM_cons]
        exact run_bind_of_error (run_recorded hvisit before)
    | ok z =>
      -- the other calls start in the state that this one leaves, and are written down behind it
      obtain ⟨calls, result, last, hwalks, hrun, hrecorded⟩ := ih after
      refine ⟨_, _, _, .next hvisit hwalks, ?_, fun before => ?_⟩
      · rw [List.mapM_cons, run_bind_of_ok hvisit]
        exact run_bind_pure (z :: ·) hrun
      · rw [List.mapM_cons, run_bind_of_ok (run_recorded hvisit before)]
        refine (run_bind_pure (z :: ·) (hrecorded _)).trans ?_
        rw [List.append_assoc, List.singleton_append]

/-! ### What the calls tell -/

variable {ps : List (α × β)} {s last : σ} {calls : List (Call α β γ σ ε)}
  {result : Except ε (List γ)}

/-- A walk hands the state on from call to call. -/
theorem Walks.threads (h : Walks visit ps s calls result last) : Threads visit s calls last := by
  induction h with
  | done => rfl
  | stopped h => exact ⟨rfl, h, rfl⟩
  | next h _ ih => exact ⟨rfl, h, ih⟩

/-- The calls are made on the first pairs, in their order. -/
theorem Walks.pairs_isPrefix (h : Walks visit ps s calls result last) :
    (calls.map fun call => (call.first, call.second)) <+: ps := by
  induction h with
  | done => exact List.prefix_rfl
  | stopped _ => exact List.cons_prefix_cons.mpr ⟨rfl, List.nil_prefix⟩
  | next _ _ ih => exact List.cons_prefix_cons.mpr ⟨rfl, ih⟩

/-- The pairs of a walk are visited in order. -/
theorem Walks.getElem?_pair (h : Walks visit ps s calls result last) {k : Nat}
    {call : Call α β γ σ ε} (hk : calls[k]? = some call) :
    ps[k]? = some (call.first, call.second) := by
  have hmap : (calls.map fun call => (call.first, call.second))[k]? =
      some (call.first, call.second) := by
    rw [List.getElem?_map, hk, Option.map_some]
  obtain ⟨hlt, hget⟩ := List.getElem?_eq_some_iff.mp hmap
  rw [← hget]
  exact (List.prefix_iff_getElem?.mp h.pairs_isPrefix) k hlt

/-- If no call fails, there is one for each pair, and their results are collected. -/
theorem Walks.complete (h : Walks visit ps s calls result last)
    (hok : ∀ call ∈ calls, ∃ z, call.result = .ok z) :
    calls.length = ps.length ∧
      ∃ out, result = .ok out ∧ calls.map Call.result = out.map .ok := by
  induction h with
  | done => exact ⟨rfl, [], rfl, rfl⟩
  | stopped _ =>
    -- its one call fails, and none was to
    obtain ⟨z, hz⟩ := hok _ List.mem_cons_self
    cases hz
  | @next x y ps s after last z calls result hvisit hrest ih =>
    obtain ⟨hlength, out, rfl, hout⟩ := ih fun call hcall => hok call (List.mem_cons_of_mem _ hcall)
    exact ⟨congrArg Nat.succ hlength, z :: out, rfl, congrArg (List.cons _) hout⟩

/-- The call that fails is the last one, and its error is what comes of the walk. -/
theorem Walks.stopped_at (h : Walks visit ps s calls result last) {k : Nat}
    {call : Call α β γ σ ε} {e : ε} (hk : calls[k]? = some call) (he : call.result = .error e) :
    calls.length = k + 1 ∧ result = .error e := by
  induction h generalizing k with
  | done => cases hk
  | stopped _ =>
    cases k with
    | zero =>
      obtain rfl := Option.some.inj hk
      exact ⟨rfl, congrArg _ (Except.error.inj he)⟩
    | succ k => cases hk
  | next _ _ ih =>
    cases k with
    | zero =>
      obtain rfl := Option.some.inj hk
      cases he
    | succ k =>
      -- the call that fails is one of those behind the first, which are a walk of their own
      obtain ⟨hlength, rfl⟩ := ih hk
      exact ⟨congrArg Nat.succ hlength, rfl⟩

/-! ### Walks over pairs -/

/-- Which calls a walk over pairs makes, and what comes of them. -/
structure CallsOf (visit : α → β → ExceptT ε (StateM σ) γ) (xs : List α) (ys : List β) (s : σ)
    (calls : List (Call α β γ σ ε)) (result : Except ε (List γ)) (last : σ) : Prop where
  /-- The state is handed on from call to call. -/
  threads : Threads visit s calls last
  /-- The second component moves fastest. -/
  pair (k : Nat) (call : Call α β γ σ ε) (hk : calls[k]? = some call) :
    xs[k / ys.length]? = some call.first ∧ ys[k % ys.length]? = some call.second
  complete (hok : ∀ call ∈ calls, ∃ z, call.result = .ok z) :
    calls.length = xs.length * ys.length ∧
      ∃ out, result = .ok out ∧ calls.map Call.result = out.map .ok
  stopped_at (k : Nat) (call : Call α β γ σ ε) (e : ε) (hk : calls[k]? = some call)
    (he : call.result = .error e) : calls.length = k + 1 ∧ result = .error e
  none (h : xs = [] ∨ ys = []) : calls = [] ∧ result = .ok []

/-- **A walk over pairs visits every pair once, in order, and stops at the first failure.**  A visit
    that writes down its calls gives what the visit gives and leaves the state that the visit
    leaves. -/
theorem forEachPair_calls (visit : α → β → ExceptT ε (StateM σ) γ) (xs : List α) (ys : List β)
    (s : σ) :
    ∃ calls result last,
      (forEachPair xs ys visit).run.run s = (result, last) ∧
      (forEachPair xs ys (recorded visit)).run.run (s, []) = (result, last, calls) ∧
      CallsOf visit xs ys s calls result last := by
  obtain ⟨calls, result, last, hwalks, hrun, hrecorded⟩ := exists_walks visit (xs ×ˢ ys) s
  have hpairs : (xs ×ˢ ys).length = xs.length * ys.length := List.length_product xs ys
  refine ⟨calls, result, last, ?_, ?_, ?_⟩
  · rw [forEachPair_eq_mapM]
    exact hrun
  · rw [forEachPair_eq_mapM]
    exact hrecorded []
  · exact {
      threads := hwalks.threads
      pair := fun k call hk => getElem?_of_product (hwalks.getElem?_pair hk)
      complete := fun hok => hpairs ▸ hwalks.complete hok
      stopped_at := fun k call e hk he => hwalks.stopped_at hk he
      none := by
        intro hnone
        have hempty : xs ×ˢ ys = [] := by
          rw [← List.length_eq_zero_iff, hpairs]
          rcases hnone with rfl | rfl <;> simp
        rw [hempty] at hwalks
        -- without pairs there is nothing but `done`
        cases hwalks
        exact ⟨rfl, rfl⟩ }

end MarketFeed
