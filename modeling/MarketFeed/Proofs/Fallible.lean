import Mathlib.Data.List.Forall2

namespace MarketFeed

/-!
# Computations that may fail

* `ok_bind`, `error_bind`, `map_ok`, `map_error`, `fmap_ok`, `fmap_error` — one step of a
  computation in `Except`.
* `bind_eq_ok_iff`, `map_eq_ok_iff` — a computation succeeds when its parts do.
* `lookup_eq_some_iff_mem` — what a list of pairs has under a key.
* `exists_of_forall₂_left`, `exists_of_forall₂_right` — counterparts in lists side by side.
* `mapM_eq_ok_iff`, `exists_mapM_eq_ok`, `mapM_eq_error` — a walk over a list gives one result for
  each element, or the error of the first element that fails.
* `mapM_fmap`, `mapM_congr` — a walk whose results are changed one by one, or not at all.
* `forM_eq_ok_iff`, `forM_eq_error_iff` — a walk that only checks.
* `joined_eq_error`, `exists_joined_eq_ok` — a walk whose results are joined, in terms of the walks
  over one element each.
-/

universe u v

variable {α β ε : Type}

/-! ### One step -/

@[simp] theorem ok_bind (a : α) (f : α → Except ε β) : (Except.ok a >>= f) = f a := rfl

@[simp] theorem error_bind (e : ε) (f : α → Except ε β) : (Except.error e >>= f) = .error e := rfl

@[simp] theorem pure_eq_ok (a : α) : (pure a : Except ε α) = .ok a := rfl

@[simp] theorem map_ok (f : α → β) (a : α) : Except.map f (.ok a : Except ε α) = .ok (f a) := rfl

@[simp] theorem map_error (f : α → β) (e : ε) : Except.map f (.error e) = .error e := rfl

@[simp] theorem fmap_ok (f : α → β) (a : α) : (f <$> Except.ok a : Except ε β) = .ok (f a) := rfl

@[simp] theorem fmap_error (f : α → β) (e : ε) : (f <$> Except.error e : Except ε β) = .error e :=
  rfl

/-- A computation in two steps succeeds when both steps do. -/
theorem bind_eq_ok_iff {x : Except ε α} {f : α → Except ε β} {b : β} :
    x >>= f = .ok b ↔ ∃ a, x = .ok a ∧ f a = .ok b := by
  cases x with
  | error e => simp
  | ok a => simp

/-- A result that is changed afterwards is there when the original one is. -/
theorem map_eq_ok_iff {x : Except ε α} {f : α → β} {b : β} :
    x.map f = .ok b ↔ ∃ a, x = .ok a ∧ f a = b := by
  cases x with
  | error e => simp
  | ok a => simp

/-! ### Lookups -/

/-- Where every key has one value, the value of a key is the one that the list pairs it with. -/
theorem lookup_eq_some_iff_mem {entries : List (String × α)}
    (h : ∀ k a b, (k, a) ∈ entries → (k, b) ∈ entries → a = b) {key : String} {a : α} :
    entries.lookup key = some a ↔ (key, a) ∈ entries := by
  induction entries with
  | nil => simp
  | cons entry entries ih =>
    obtain ⟨k, b⟩ := entry
    have hrest := ih fun k a b ha hb =>
      h k a b (List.mem_cons_of_mem _ ha) (List.mem_cons_of_mem _ hb)
    rw [List.lookup_cons, List.mem_cons, Prod.mk.injEq]
    by_cases hkey : key = k
    · -- a later entry with the key has the same value
      have hvalue : (key, a) ∈ entries → b = a := fun hmem =>
        h k b a List.mem_cons_self (List.mem_cons_of_mem _ (hkey ▸ hmem))
      rw [beq_iff_eq.mpr hkey]
      simp only [Option.some.injEq, hkey, true_and]
      exact ⟨fun hb => .inl hb.symm, fun hmem => hmem.elim Eq.symm (hkey ▸ hvalue)⟩
    · rw [beq_false_of_ne hkey]
      simp only [hrest, hkey, false_and, false_or]

/-! ### Walks over lists -/

/-- An element of one list has its counterpart in the other. -/
theorem exists_of_forall₂_left {α : Type u} {β : Type v} {R : α → β → Prop} {xs : List α}
    {ys : List β} (h : List.Forall₂ R xs ys) {x : α} (hx : x ∈ xs) : ∃ y ∈ ys, R x y := by
  induction h with
  | nil => cases hx
  | @cons x' y xs ys hxy _ ih =>
    rcases List.mem_cons.mp hx with rfl | hx
    · exact ⟨y, List.mem_cons_self, hxy⟩
    · obtain ⟨z, hz, hxz⟩ := ih hx
      exact ⟨z, List.mem_cons_of_mem y hz, hxz⟩

/-- An element of one list has its counterpart in the other. -/
theorem exists_of_forall₂_right {α : Type u} {β : Type v} {R : α → β → Prop} {xs : List α}
    {ys : List β} (h : List.Forall₂ R xs ys) {y : β} (hy : y ∈ ys) : ∃ x ∈ xs, R x y := by
  have hflip : List.Forall₂ (flip R) ys xs := List.Forall₂.flip h
  exact exists_of_forall₂_left hflip hy

/-- A walk succeeds with one result for each element. -/
theorem mapM_eq_ok_iff (f : α → Except ε β) (xs : List α) (ys : List β) :
    xs.mapM f = .ok ys ↔ List.Forall₂ (fun x y => f x = .ok y) xs ys := by
  induction xs generalizing ys with
  | nil => simp [eq_comm]
  | cons x xs ih =>
    -- both sides come apart into the first element and the others
    rw [List.mapM_cons, bind_eq_ok_iff, List.forall₂_cons_left_iff]
    constructor
    · rintro ⟨y, hx, hrest⟩
      obtain ⟨zs, hxs, hys⟩ := bind_eq_ok_iff.mp hrest
      exact ⟨y, zs, hx, (ih zs).mp hxs, (Except.ok.inj hys).symm⟩
    · rintro ⟨y, zs, hx, hxs, rfl⟩
      exact ⟨y, hx, bind_eq_ok_iff.mpr ⟨zs, (ih zs).mpr hxs, rfl⟩⟩

/-- A walk succeeds when every element does. -/
theorem exists_mapM_eq_ok {f : α → Except ε β} {xs : List α} (h : ∀ x ∈ xs, ∃ y, f x = .ok y) :
    ∃ ys, xs.mapM f = .ok ys := by
  induction xs with
  | nil => exact ⟨[], rfl⟩
  | cons x xs ih =>
    obtain ⟨y, hy⟩ := h x (by simp)
    obtain ⟨ys, hys⟩ := ih fun z hz => h z (by simp [hz])
    refine ⟨y :: ys, ?_⟩
    rw [List.mapM_cons, hy, ok_bind, hys]
    rfl

/-- A walk ends at the first element that fails, with its error. -/
theorem mapM_eq_error {f : α → Except ε β} {before after : List α} {x : α} {e : ε}
    (hbefore : ∀ b ∈ before, ∃ y, f b = .ok y) (hx : f x = .error e) :
    (before ++ x :: after).mapM f = .error e := by
  induction before with
  | nil => rw [List.nil_append, List.mapM_cons, hx, error_bind]
  | cons b bs ih =>
    obtain ⟨y, hy⟩ := hbefore b (by simp)
    rw [List.cons_append, List.mapM_cons, hy, ok_bind, ih (fun c hc => hbefore c (by simp [hc])),
      error_bind]

/-- A walk whose results are changed one by one, in any lawful monad. -/
theorem mapM_fmap {m : Type → Type} [Monad m] [LawfulMonad m] {γ : Type} (g : β → γ) (f : α → m β)
    (xs : List α) : xs.mapM (fun x => g <$> f x) = List.map g <$> xs.mapM f := by
  induction xs with
  | nil => simp
  | cons x xs ih => simp [ih]

/-- Two walks that do the same at each element do the same. -/
theorem mapM_congr {m : Type → Type} [Monad m] [LawfulMonad m] {f g : α → m β} {xs : List α}
    (h : ∀ x ∈ xs, f x = g x) : xs.mapM f = xs.mapM g := by
  induction xs with
  | nil => rfl
  | cons x xs ih =>
    rw [List.forall_mem_cons] at h
    rw [List.mapM_cons, List.mapM_cons, h.1, ih h.2]

/-! ### Walks that only check -/

/-- A walk that gives nothing back takes its first step and goes on. -/
theorem forM_cons_eq (f : α → Except ε Unit) (x : α) (xs : List α) :
    (x :: xs).forM f = f x >>= fun _ => xs.forM f := rfl

/-- A check passes when every element does. -/
theorem forM_eq_ok_iff {f : α → Except ε Unit} {xs : List α} :
    xs.forM f = .ok () ↔ ∀ x ∈ xs, f x = .ok () := by
  induction xs with
  | nil => exact iff_of_true rfl (List.forall_mem_nil _)
  | cons x xs ih =>
    rw [forM_cons_eq, bind_eq_ok_iff, List.forall_mem_cons, ih]
    exact ⟨fun ⟨_, hx, hxs⟩ => ⟨hx, hxs⟩, fun ⟨hx, hxs⟩ => ⟨(), hx, hxs⟩⟩

/-- A check fails at the first element that does, with its error. -/
theorem forM_eq_error_iff {f : α → Except ε Unit} {xs : List α} {e : ε} :
    xs.forM f = .error e ↔ ∃ before x after, xs = before ++ x :: after ∧
      (∀ b ∈ before, f b = .ok ()) ∧ f x = .error e := by
  constructor
  · intro h
    induction xs with
    | nil => cases h
    | cons x xs ih =>
      rw [forM_cons_eq] at h
      cases hx : f x with
      | error e' =>
        -- the check ends here, and nothing stands in front
        rw [hx, error_bind] at h
        exact ⟨[], x, xs, rfl, List.forall_mem_nil _, hx.trans h⟩
      | ok u =>
        -- what fails is further on, with this element in front of it
        rw [hx, ok_bind] at h
        obtain ⟨before, y, after, rfl, hbefore, hy⟩ := ih h
        exact ⟨x :: before, y, after, rfl, List.forall_mem_cons.mpr ⟨hx, hbefore⟩, hy⟩
  · rintro ⟨before, x, after, rfl, hbefore, hx⟩
    induction before with
    | nil => rw [List.nil_append, forM_cons_eq, hx, error_bind]
    | cons b before ih =>
      rw [List.forall_mem_cons] at hbefore
      rw [List.cons_append, forM_cons_eq, hbefore.1, ok_bind, ih hbefore.2]

/-! ### Walks whose results are joined -/

section Joined

variable {γ δ : Type} {visit : α → Except ε γ} {join : List γ → δ}

/-- A walk of one step has its result alone. -/
theorem joined_singleton (x : α) :
    join <$> [x].mapM visit = (fun z => join [z]) <$> visit x := by
  rw [List.mapM_cons, List.mapM_nil]
  cases visit x <;> rfl

/-- The first element that fails on its own decides the error. -/
theorem joined_eq_error {before after : List α} {x : α} {e : ε}
    (hbefore : ∀ b ∈ before, ∃ d, join <$> [b].mapM visit = .ok d)
    (hx : join <$> [x].mapM visit = .error e) :
    join <$> (before ++ x :: after).mapM visit = .error e := by
  -- what is joined of one visit is there just when the visit succeeds
  have hvisit : visit x = .error e := by
    rw [joined_singleton] at hx
    cases h : visit x with
    | ok z => rw [h] at hx; cases hx
    | error e' => rw [h] at hx; cases hx; rfl
  have hbefore' : ∀ b ∈ before, ∃ z, visit b = .ok z := by
    intro b hb
    obtain ⟨d, hd⟩ := hbefore b hb
    rw [joined_singleton] at hd
    cases h : visit b with
    | ok z => exact ⟨z, rfl⟩
    | error e' => rw [h] at hd; cases hd
  rw [mapM_eq_error hbefore' hvisit, fmap_error]

/-- When all elements succeed on their own, the parts of their results are joined. -/
theorem exists_joined_eq_ok {xs : List α} {ds : List δ}
    (h : List.Forall₂ (fun x d => join <$> [x].mapM visit = .ok d) xs ds) :
    ∃ zs, ds = zs.map (fun z => join [z]) ∧ join <$> xs.mapM visit = .ok (join zs) := by
  -- the results are collected before anything is joined, so the induction leaves `join` alone
  have hparts : ∃ zs, ds = zs.map (fun z => join [z]) ∧ xs.mapM visit = .ok zs := by
    induction h with
    | nil => exact ⟨[], rfl, rfl⟩
    | @cons x d xs ds hx _ ih =>
      obtain ⟨zs, rfl, hzs⟩ := ih
      rw [joined_singleton] at hx
      cases hvisit : visit x with
      | error e => rw [hvisit] at hx; cases hx
      | ok z =>
        rw [hvisit, fmap_ok] at hx
        refine ⟨z :: zs, by rw [List.map_cons, Except.ok.inj hx], ?_⟩
        rw [List.mapM_cons, hvisit, ok_bind, hzs]
        rfl
  obtain ⟨zs, hds, hzs⟩ := hparts
  exact ⟨zs, hds, by rw [hzs, fmap_ok]⟩

end Joined

end MarketFeed
