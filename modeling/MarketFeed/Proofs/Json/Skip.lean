import MarketFeed.Proofs.Json.Scan

namespace MarketFeed.Json

/-!
# Passing over what the grammar admits

A value of any depth is passed over, whatever brackets are open around it.

* `skipFrom_value`, `skipFrom_first`, `skipFrom_next` — one step from each need.
* `Spelled.head` — no value begins with a blank, a comma or a closing bracket.
* `Spelled.skipFrom_eq` — passing over a value leads from the need of a value to what comes next.
* `Spelled.skip_eq` — a whole value is passed over.
-/

variable {text rest : List Char}

/-! ### The steps of passing over a value -/

/-- One step where a value must stand. -/
theorem skipFrom_value (stack : List Enclosure) (text : List Char) :
    skipFrom .value stack text =
      match skipSpaces text with
      | [] => .error (.endOfInput .value)
      | c :: rest =>
        if c = '[' then skipFrom (.first .list) stack rest
        else if c = '{' then skipFrom (.first .object) stack rest
        else skipScalar (c :: rest) >>= skipFrom .next stack := by
  rw [skipFrom]
  split
  · rename_i h
    rw [h]
  · rename_i c rest h
    rw [h]
    show _ = ite _ _ _
    congr 2
    split <;> rename_i h' <;> rw [h'] <;> rfl

/-- One step behind an opening bracket. -/
theorem skipFrom_first (inside : Enclosure) (stack : List Enclosure) (text : List Char) :
    skipFrom (.first inside) stack text =
      match skipSpaces text with
      | [] => .error (.endOfInput inside.place)
      | c :: rest =>
        if c = inside.closing then skipFrom .next stack rest
        else
          match inside with
          | .list => skipFrom .value (.list :: stack) (c :: rest)
          | .object => skipKey (c :: rest) >>= skipFrom .value (.object :: stack) := by
  rw [skipFrom]
  split
  · rename_i h
    rw [h]
  · rename_i c rest h
    rw [h]
    show _ = ite _ _ _
    congr 1
    cases inside with
    | list => rfl
    | object =>
      show _ = skipKey (c :: rest) >>= _
      simp only
      split <;> rename_i h' <;> rw [h'] <;> rfl

/-- One step behind a value in an enclosure. -/
theorem skipFrom_next (inside : Enclosure) (outer : List Enclosure) (text : List Char) :
    skipFrom .next (inside :: outer) text =
      match skipSpaces text with
      | [] => .error (.endOfInput inside.place)
      | c :: rest =>
        if c = inside.closing then skipFrom .next outer rest
        else if c = ',' then
          match inside with
          | .list => skipFrom .value (.list :: outer) rest
          | .object => skipKey rest >>= skipFrom .value (.object :: outer)
        else .error (.expectedCommaOrEnd inside) := by
  rw [skipFrom]
  split
  · rename_i h
    rw [h]
  · rename_i c rest h
    rw [h]
    show _ = ite _ _ _
    congr 2
    cases inside with
    | list => rfl
    | object =>
      show _ = skipKey rest >>= _
      simp only
      split <;> rename_i h' <;> rw [h'] <;> rfl

/-! ### The first character of a value -/

/-- A value begins with some character that is no blank. -/
theorem Spelled.head {v : Json} (h : Spelled v text rest) :
    ∃ c cs, text = c :: cs ∧ ¬ isSpace c ∧ c ≠ ',' ∧ c ≠ ']' ∧ c ≠ '}' := by
  cases h with
  | number h =>
    obtain ⟨c, cs, hcs, hc⟩ := h.head
    exact ⟨c, cs ++ rest, by rw [hcs, List.cons_append], hc.not_isSpace, hc.ne (by decide),
      hc.ne (by decide), hc.ne (by decide)⟩
  | _ => exact ⟨_, _, rfl, by decide⟩

/-- A value is found behind the blanks in front of it. -/
theorem Spelled.skipSpaces_eq {v : Json} {start : List Char} (h : Spelled v start rest)
    (hs : Spaces text start) : skipSpaces text = start := by
  obtain ⟨c, cs, rfl, hc, -⟩ := h.head
  exact hs.skip_eq hc

/-! ### Values without brackets -/

/-- A value that is no enclosure is passed over in one step. -/
theorem skipFrom_value_of_scalar {c : Char} (hspace : ¬ isSpace c) (hlist : c ≠ '[')
    (hobject : c ≠ '{') (hskip : skipScalar (c :: text) = .ok rest) (stack : List Enclosure) :
    skipFrom .value stack (c :: text) = skipFrom .next stack rest := by
  rw [skipFrom_value, skipSpaces_cons_of_not hspace]
  simp only [if_neg hlist, if_neg hobject, hskip, ok_bind]

/-- Blanks in front of a value are passed over. -/
theorem Spaces.skipFrom_eq {start : List Char} (h : Spaces text start) (stack : List Enclosure) :
    skipFrom .value stack text = skipFrom .value stack start := by
  rw [skipFrom_value, h.skipSpaces_eq, ← skipFrom_value]

/-! ### What stands between brackets -/

/-- Passes over what is left between brackets, `first` telling that none of it was seen yet. -/
def skipInside (first : Bool) (inside : Enclosure) (outer : List Enclosure) (text : List Char) :
    Except Fault (List Char) :=
  if first then skipFrom (.first inside) outer text else skipFrom .next (inside :: outer) text

/-- The closing bracket ends an enclosure. -/
theorem skipInside_end {first : Bool} {inside : Enclosure}
    (h : Spaces text (inside.closing :: rest)) (outer : List Enclosure) :
    skipInside first inside outer text = skipFrom .next outer rest := by
  have hskip : skipSpaces text = inside.closing :: rest := by
    apply h.skip_eq
    cases inside <;> decide
  cases first with
  | true =>
    show skipFrom (.first inside) outer text = _
    rw [skipFrom_first, hskip]
    simp only [if_true]
  | false =>
    show skipFrom .next (inside :: outer) text = _
    rw [skipFrom_next, hskip]
    simp only [if_true]

/-- An item of a list is next. -/
theorem skipInside_item {first : Bool} {t start : List Char} {v : Json} (hcomma : Comma first text t)
    (hspaces : Spaces t start) (hvalue : Spelled v start rest) (outer : List Enclosure) :
    skipInside first .list outer text = skipFrom .value (.list :: outer) start := by
  cases hcomma with
  | absent =>
    -- the value is not taken for the end of the list
    obtain ⟨c, cs, rfl, hspace, -, hclosing, -⟩ := hvalue.head
    show skipFrom (.first .list) outer text = _
    rw [skipFrom_first, hspaces.skip_eq hspace]
    exact if_neg hclosing
  | present h =>
    show skipFrom .next (.list :: outer) text = _
    -- behind its comma the value is looked for where blanks may stand
    rw [skipFrom_next, h.skip_eq (by decide), ← hspaces.skipFrom_eq]
    rfl

/-- A member of an object is next. -/
theorem skipInside_member {first : Bool} {t t' start : List Char} (hcomma : Comma first text t)
    (hspaces : Spaces t ('"' :: t')) (hkey : skipKey t = .ok start) (outer : List Enclosure) :
    skipInside first .object outer text = skipFrom .value (.object :: outer) start := by
  cases hcomma with
  | absent =>
    -- here the key is read after the blanks in front of it were passed over
    have hkey' : skipKey ('"' :: t') = .ok start := by
      rw [← hkey, skipKey, skipKey, hspaces.skipSpaces_eq]
    show skipFrom (.first .object) outer text = _
    rw [skipFrom_first, hspaces.skip_eq (by decide)]
    show skipKey ('"' :: t') >>= _ = _
    rw [hkey', ok_bind]
  | present h =>
    show skipFrom .next (.object :: outer) text = _
    rw [skipFrom_next, h.skip_eq (by decide)]
    show skipKey t >>= _ = _
    rw [hkey, ok_bind]

/-- A colon is read behind blanks. -/
theorem readColon_eq (h : Spaces text (':' :: rest)) : readColon text = .ok ((), rest) := by
  rw [readColon, h.skip_eq (by decide)]
  rfl

/-- The name and the colon of a member are passed over. -/
theorem skipKey_eq {name t t' : List Char} (hspaces : Spaces text ('"' :: t))
    (hname : StringBody name t t') (hcolon : Spaces t' (':' :: rest)) :
    skipKey text = .ok rest := by
  rw [skipKey, hspaces.skip_eq (by decide)]
  simp only [if_true, hname.skip_eq, ok_bind, readColon_eq hcolon]
  rfl

/-! ### Values -/

mutual

/-- **A value is passed over**, and what comes after it is next. -/
theorem Spelled.skipFrom_eq {v : Json} {text rest : List Char} :
    Spelled v text rest → Ends rest → ∀ stack : List Enclosure,
      skipFrom .value stack text = skipFrom .next stack rest
  | .null, _, stack => skipFrom_value_of_scalar (by decide) (by decide) (by decide) rfl stack
  | .boolTrue, _, stack => skipFrom_value_of_scalar (by decide) (by decide) (by decide) rfl stack
  | .boolFalse, _, stack => skipFrom_value_of_scalar (by decide) (by decide) (by decide) rfl stack
  | .number h, hrest, stack => by
    have hskip := h.skip_eq hrest
    -- a number shows at its first character that it is no enclosure
    obtain ⟨c, cs, hcs, hc⟩ := h.head
    rw [hcs, List.cons_append] at hskip ⊢
    exact skipFrom_value_of_scalar hc.not_isSpace (hc.ne (by decide)) (hc.ne (by decide)) hskip
      stack
  | @Spelled.string _ body _ h, _, stack => by
    have hskip : skipScalar ('"' :: body) = .ok rest := h.skip_eq
    exact skipFrom_value_of_scalar (by decide) (by decide) (by decide) hskip stack
  | .array h, _, stack => by
    rw [skipFrom_value, skipSpaces_cons_of_not (by decide)]
    exact h.skipInside_eq stack
  | .object h, _, stack => by
    rw [skipFrom_value, skipSpaces_cons_of_not (by decide)]
    exact h.skipInside_eq stack

/-- The items of a list are passed over, and its bracket. -/
theorem ItemsSpelled.skipInside_eq {first : Bool} {vs : List Json} {text rest : List Char} :
    ItemsSpelled first vs text rest → ∀ outer : List Enclosure,
      skipInside first .list outer text = skipFrom .next outer rest
  | .done h, outer => skipInside_end h outer
  | .item hcomma hspaces hvalue h, outer => by
    rw [skipInside_item hcomma hspaces hvalue, hvalue.skipFrom_eq h.ends]
    exact h.skipInside_eq outer

/-- The members of an object are passed over, and its bracket. -/
theorem MembersSpelled.skipInside_eq {first : Bool} {ms : List (String × Json)}
    {text rest : List Char} :
    MembersSpelled first ms text rest → ∀ outer : List Enclosure,
      skipInside first .object outer text = skipFrom .next outer rest
  | .done h, outer => skipInside_end h outer
  | .member hcomma (.mk hspaces hname hcolon hspaces' hvalue) h, outer => by
    rw [skipInside_member hcomma hspaces (skipKey_eq hspaces hname hcolon), hspaces'.skipFrom_eq,
      hvalue.skipFrom_eq h.ends]
    exact h.skipInside_eq outer

end

/-- **A whole value is passed over**, with the blanks in front of it. -/
theorem Spelled.skip_eq {v : Json} {start : List Char} (h : Spelled v start rest)
    (hspaces : Spaces text start) (hrest : Ends rest) : skipValue text = .ok ((), rest) := by
  rw [skipValue, hspaces.skipFrom_eq, h.skipFrom_eq hrest, skipFrom, map_ok]

end MarketFeed.Json
