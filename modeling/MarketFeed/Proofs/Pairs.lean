import MarketFeed.Venue.Stream
import MarketFeed.Proofs.Fallible
import Mathlib.Data.List.ProdSigma

namespace MarketFeed

/-!
# Walking over pairs — order, success and failure

A walk over pairs is one walk over the list of all pairs, the first list in the outer loop.

* `forEachPair_eq_mapM` — the two walks agree in every lawful monad.
* `forEachPair_congr` — only the visits of the pairs matter.
* `getElem?_product`, `getElem?_of_product` — which pair stands at which place.
* `forEachPair_getElem?` — when no visit fails, the result at place `i * ys.length + j` is the one of
  `xs[i]` and `ys[j]`.
* `forEachPair_eq_error`, `forEachPair_eq_ok` — when it hangs on the first component alone whether a
  visit fails, the first refused component decides.
-/

variable {α β γ ε : Type}

/-- A walk over pairs is a walk over their list. -/
theorem forEachPair_eq_mapM {m : Type → Type u} [Monad m] [LawfulMonad m] (xs : List α)
    (ys : List β) (visit : α → β → m γ) :
    forEachPair xs ys visit = (xs ×ˢ ys).mapM fun p => visit p.1 p.2 := by
  induction xs with
  | nil => simp
  | cons x xs ih =>
    rw [forEachPair_cons, ih, List.product_cons, List.mapM_append, List.mapM_map]
    rfl

/-- Two walks that do the same at each pair do the same. -/
theorem forEachPair_congr {xs : List α} {ys : List β} {visit visit' : α → β → Except ε γ}
    (h : ∀ x ∈ xs, ∀ y ∈ ys, visit x y = visit' x y) :
    forEachPair xs ys visit = forEachPair xs ys visit' := by
  rw [forEachPair_eq_mapM, forEachPair_eq_mapM]
  apply mapM_congr
  rintro ⟨x, y⟩ hp
  obtain ⟨hx, hy⟩ := List.mem_product.mp hp
  exact h x hx y hy

/-! ### Places -/

/-- The pair of `xs[i]` and `ys[j]` stands at place `i * ys.length + j`. -/
theorem getElem?_product (xs : List α) (ys : List β) {i j : Nat} {x : α} {y : β}
    (hi : xs[i]? = some x) (hj : ys[j]? = some y) :
    (xs ×ˢ ys)[i * ys.length + j]? = some (x, y) := by
  have hjlt : j < ys.length := (List.getElem?_eq_some_iff.mp hj).1
  induction xs generalizing i with
  | nil => cases hi
  | cons x' xs ih =>
    rw [List.product_cons]
    cases i with
    | zero =>
      rw [List.getElem?_cons_zero, Option.some.injEq] at hi
      rw [Nat.zero_mul, Nat.zero_add, List.getElem?_append_left (by simpa using hjlt),
        List.getElem?_map, hj, hi, Option.map_some]
    | succ i =>
      -- the pairs of the first element come before
      rw [List.getElem?_cons_succ] at hi
      have hplace : (i + 1) * ys.length + j - (ys.map (x', ·)).length = i * ys.length + j := by
        rw [List.length_map, Nat.add_mul, Nat.one_mul]
        omega
      rw [List.getElem?_append_right (by rw [List.length_map, Nat.add_mul]; omega), hplace]
      exact ih hi

/-- Conversely, place `k` holds the pair of `xs[k / ys.length]` and `ys[k % ys.length]`. -/
theorem getElem?_of_product {xs : List α} {ys : List β} {k : Nat} {p : α × β}
    (h : (xs ×ˢ ys)[k]? = some p) :
    xs[k / ys.length]? = some p.1 ∧ ys[k % ys.length]? = some p.2 := by
  have hlt : k < xs.length * ys.length := by
    rw [← List.length_product]
    exact (List.getElem?_eq_some_iff.mp h).1
  have hpos : 0 < ys.length := Nat.pos_of_mul_pos_left (Nat.zero_lt_of_lt hlt)
  have hi := List.getElem?_eq_getElem (Nat.div_lt_of_lt_mul (Nat.mul_comm _ _ ▸ hlt))
  have hj := List.getElem?_eq_getElem (Nat.mod_lt k hpos)
  -- the pair of these two stands at the same place
  have hplace := getElem?_product xs ys hi hj
  rw [Nat.div_add_mod', h, Option.some.injEq] at hplace
  rw [hi, hj, hplace]
  exact ⟨rfl, rfl⟩

/-- A walk over pairs that succeeds has one result for each pair. -/
theorem forEachPair_length {xs : List α} {ys : List β} {visit : α → β → Except ε γ}
    {out : List γ} (h : forEachPair xs ys visit = .ok out) :
    out.length = xs.length * ys.length := by
  rw [forEachPair_eq_mapM, mapM_eq_ok_iff] at h
  rw [← h.length_eq, List.length_product]

/-- Every result is the one of some pair. -/
theorem exists_of_mem_forEachPair {xs : List α} {ys : List β} {visit : α → β → Except ε γ}
    {out : List γ} (h : forEachPair xs ys visit = .ok out) {z : γ} (hz : z ∈ out) :
    ∃ x ∈ xs, ∃ y ∈ ys, visit x y = .ok z := by
  rw [forEachPair_eq_mapM, mapM_eq_ok_iff] at h
  obtain ⟨p, hp, hvisit⟩ := exists_of_forall₂_right h hz
  obtain ⟨hx, hy⟩ := List.mem_product.mp hp
  exact ⟨p.1, hx, p.2, hy, hvisit⟩

/-- Every pair has its result. -/
theorem exists_mem_forEachPair {xs : List α} {ys : List β} {visit : α → β → Except ε γ}
    {out : List γ} (h : forEachPair xs ys visit = .ok out) {x : α} {y : β} (hx : x ∈ xs)
    (hy : y ∈ ys) : ∃ z ∈ out, visit x y = .ok z := by
  rw [forEachPair_eq_mapM, mapM_eq_ok_iff] at h
  exact exists_of_forall₂_left h (List.mem_product.mpr ⟨hx, hy⟩)

/-- The result at place `i * ys.length + j` is the one of `xs[i]` and `ys[j]`. -/
theorem forEachPair_getElem? {xs : List α} {ys : List β} {visit : α → β → Except ε γ}
    {out : List γ} (h : forEachPair xs ys visit = .ok out) {i j : Nat} {x : α} {y : β}
    (hi : xs[i]? = some x) (hj : ys[j]? = some y) :
    ∃ z, out[i * ys.length + j]? = some z ∧ visit x y = .ok z := by
  rw [forEachPair_eq_mapM, mapM_eq_ok_iff] at h
  have hplace := getElem?_product xs ys hi hj
  obtain ⟨hlt, hget⟩ := List.getElem?_eq_some_iff.mp hplace
  have hlt' : i * ys.length + j < out.length := h.length_eq ▸ hlt
  refine ⟨out[i * ys.length + j], List.getElem?_eq_getElem hlt', ?_⟩
  have hvisit := h.get hlt hlt'
  rw [List.get_eq_getElem, hget] at hvisit
  exact hvisit

/-! ### Refusals that hang on the first component alone -/

section Refusal

variable {refuse? : α → Option ε} {visit : α → β → Except ε γ}
  (hrefused : ∀ x y e, refuse? x = some e → visit x y = .error e)
  (haccepted : ∀ x y, refuse? x = none → ∃ z, visit x y = .ok z)

include hrefused haccepted

/-- The first component that is refused decides the error, if there is a second one at all. -/
theorem forEachPair_eq_error {xs : List α} {ys : List β} {e : ε} (hys : ys ≠ [])
    (h : xs.findSome? refuse? = some e) : forEachPair xs ys visit = .error e := by
  obtain ⟨before, x, after, rfl, hx, hbefore⟩ := List.findSome?_eq_some_iff.mp h
  obtain ⟨y, ys, rfl⟩ := List.exists_cons_of_ne_nil hys
  have hsplit : (before ++ x :: after) ×ˢ (y :: ys)
      = before ×ˢ (y :: ys) ++ (x, y) :: (ys.map (x, ·) ++ after ×ˢ (y :: ys)) := by
    simp [SProd.sprod, List.product]
  rw [forEachPair_eq_mapM, hsplit]
  refine mapM_eq_error ?_ (hrefused x y e hx)
  -- no pair before the first refused one fails
  rintro ⟨b, y'⟩ hb
  exact haccepted b y' (hbefore b (List.mem_product.mp hb).1)

omit hrefused in
/-- A walk succeeds when no component is refused. -/
theorem forEachPair_eq_ok {xs : List α} (ys : List β) (h : xs.findSome? refuse? = none) :
    ∃ out, forEachPair xs ys visit = .ok out := by
  rw [List.findSome?_eq_none_iff] at h
  rw [forEachPair_eq_mapM]
  refine exists_mapM_eq_ok ?_
  rintro ⟨x, y⟩ hp
  exact haccepted x y (h x (List.mem_product.mp hp).1)

end Refusal

end MarketFeed
