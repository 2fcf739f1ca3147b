import Mathlib.Data.List.TakeWhile
import MarketFeed.Json.Record
import MarketFeed.Proofs.Json.Read

namespace MarketFeed.Json

/-!
# Reading a longer text

A reader that is through with a value does not look at what comes after it.  A number is the
exception: it may go on at the end of a text, but not where something else follows.

* `Settles` — a reader takes the same off a text when more is appended to it.
* `SettlesBefore` — the same, where something follows what is taken.
* `skipNumber_append`, `skipFrom_append` — numbers, and values that are passed over.
* `settles_readItems`, `settles_readMembers`, `Schema.settles_read` — what stands between brackets
  is settled by its closing bracket.
* `Settles.isSpace_of_readText` — so of two texts that are read, one longer than the other, the
  longer one has more blanks and nothing else.
-/

variable {α β σ : Type}

/-- What the reader takes off a text it takes off every longer text. -/
def Settles (read : Reader α) : Prop :=
  ∀ ⦃text : List Char⦄ ⦃a : α⦄ ⦃rest : List Char⦄, read text = .ok (a, rest) →
    ∀ more, read (text ++ more) = .ok (a, rest ++ more)

/-- What the reader takes off a text, with something left after it, it takes off every longer
    text. -/
def SettlesBefore (read : Reader α) : Prop :=
  ∀ ⦃text : List Char⦄ ⦃a : α⦄ ⦃rest : List Char⦄, read text = .ok (a, rest) → rest ≠ [] →
    ∀ more, read (text ++ more) = .ok (a, rest ++ more)

/-- A reader that settles does so where something is left. -/
theorem Settles.before {read : Reader α} (h : Settles read) : SettlesBefore read :=
  fun _ _ _ hread _ => h hread

/-! ### Readers made of readers -/

section Combined

variable {read : Reader α}

/-- A reader that takes nothing settles. -/
theorem settles_ok (a : α) : Settles fun text => .ok (a, text) := by
  intro text b rest h more
  obtain ⟨rfl, rfl⟩ := Prod.mk.inj (Except.ok.inj h)
  rfl

/-- A reader that always fails settles, as it takes nothing. -/
theorem settles_error (e : List Char → Fault) :
    Settles fun text => (.error (e text) : Except Fault (α × List Char)) :=
  fun _ _ _ h => nomatch h

/-- A choice settles if both sides do. -/
theorem settles_ite {p : Prop} {_ : Decidable p} {read' : Reader α} (h : Settles read)
    (h' : Settles read') : Settles fun text => if p then read text else read' text := by
  by_cases hp : p
  · simpa only [if_pos hp] using h
  · simpa only [if_neg hp] using h'

/-- A reader whose result is changed afterwards. -/
theorem Settles.map (h : Settles read) (f : α → β) :
    Settles fun text => (read text).map fun p => (f p.1, p.2) := by
  intro text b rest hread more
  obtain ⟨⟨a, r⟩, ha, heq⟩ := map_eq_ok_iff.mp hread
  obtain ⟨rfl, rfl⟩ := Prod.mk.inj heq
  exact map_eq_ok_iff.mpr ⟨_, h ha more, rfl⟩

/-- What is made of a value has no part in the reading. -/
theorem Settles.return (h : Settles read) (f : α → β) : Settles (do return f (← read)) := by
  have hmap := h.map f
  rwa [← funext (return_eq_map f read)] at hmap

/-- One reader after another. -/
theorem Settles.bind {next : α × List Char → Except Fault (β × List Char)} (h : Settles read)
    (hnext : ∀ a, Settles fun rest => next (a, rest)) : Settles fun text => read text >>= next := by
  intro text b rest hread more
  obtain ⟨⟨a, r⟩, ha, hb⟩ := bind_eq_ok_iff.mp hread
  exact bind_eq_ok_iff.mpr ⟨_, h ha more, hnext a hb more⟩

/-- A reader that depends on what does not depend on the text. -/
theorem settles_decided {x : Except Fault α} {next : α → Reader β} (h : ∀ a, Settles (next a)) :
    Settles fun text => x >>= fun a => next a text := by
  cases x with
  | error e => exact settles_error _
  | ok a => exact h a

/-- A reader that looks at the first character, and wants one. -/
theorem settles_uncons {next : Char → Reader α} (e : Fault) (h : ∀ c, Settles (next c)) :
    Settles fun text => match text with
      | [] => .error e
      | c :: rest => next c rest := by
  intro text a rest hread more
  cases text with
  | nil => cases hread
  | cons c text => exact h c hread more

/-- Blanks in front of a character stay blanks in front of it. -/
theorem skipSpaces_append {c : Char} {text rest : List Char} (h : skipSpaces text = c :: rest)
    (more : List Char) : skipSpaces (text ++ more) = c :: (rest ++ more) := by
  unfold skipSpaces at h ⊢
  rw [List.dropWhile_append, h]
  rfl

/-- A reader that looks at the first character behind blanks, and wants one. -/
theorem settles_afterSpaces {next : Char → Reader α} (e : Fault) (h : ∀ c, Settles (next c)) :
    Settles fun text => match skipSpaces text with
      | [] => .error e
      | c :: rest => next c rest := by
  intro text a rest hread more
  cases hskip : skipSpaces text with
  | nil => simp only [hskip, reduceCtorEq] at hread
  | cons c text' =>
    simp only [hskip] at hread
    simp only [skipSpaces_append hskip]
    exact h c hread more

end Combined

/-! ### Tokens -/

variable {text rest : List Char}

/-- A word is over with its last character. -/
theorem settles_readWord (ws : List Char) : Settles (readWord ws) := by
  induction ws with
  | nil => exact settles_ok ()
  | cons w ws ih =>
    intro text a rest h more
    cases text with
    | nil => cases h
    | cons c text =>
      rw [readWord] at h
      rw [List.cons_append, readWord]
      split at h
      · rename_i hc
        rw [if_pos hc]
        exact ih h more
      · cases h

theorem settles_readHex : Settles readHex := by
  intro text n rest h more
  unfold readHex at h
  split at h
  · rename_i a b c d text
    split at h
    · rename_i m hm
      obtain ⟨rfl, rfl⟩ := Prod.mk.inj (Except.ok.inj h)
      simp only [List.cons_append, readHex, hm]
    · cases h
  · split at h <;> cases h

theorem settles_readPairMark : Settles readPairMark := by
  intro text u rest h more
  unfold readPairMark at h
  split at h
  · cases h
  · cases h
  · cases h
    rfl
  · cases h

/-- An escape is over with its last character. -/
theorem settles_readEscape (pairs : Bool) : Settles (readEscape pairs) := by
  refine settles_uncons _ fun c => settles_ite ?unicode ?short
  case unicode =>
    refine settles_readHex.bind fun n => ?_
    refine settles_ite (settles_ok _) <| settles_ite (settles_error _) <|
      settles_ite ?_ (settles_ok _)
    refine settles_readPairMark.bind fun _ => settles_readHex.bind fun m => ?_
    exact settles_ite (settles_ok _) (settles_error _)
  case short =>
    cases shortEscape? c with
    | some d => exact settles_ok d
    | none => exact settles_error _

/-- A string literal ends with its quote. -/
theorem settles_readBody (pairs : Bool) (seen : List Char) : Settles (readBody pairs seen) := by
  intro text a rest h more
  -- the cases are those of the definition, one for each kind of character
  fun_induction readBody pairs seen text with
  | case1 => cases h
  | case2 seen c =>
    obtain ⟨rfl, rfl⟩ := Prod.mk.inj (Except.ok.inj h)
    rw [List.cons_append, readBody, if_pos rfl]
  | case3 seen text d text' hescape hquote ih =>
    rw [List.cons_append, readBody_escape (settles_readEscape pairs hescape more)]
    exact ih h
  | case4 => cases h
  | case5 => cases h
  | case6 seen c text hquote hslash hcontrol ih =>
    rw [List.cons_append, readBody, if_neg hquote, if_neg hslash, if_neg hcontrol]
    exact ih h

/-- A literal that is passed over is over with its closing quote. -/
theorem skipBody_append (h : skipBody text = .ok rest) (more : List Char) :
    skipBody (text ++ more) = .ok (rest ++ more) := by
  obtain ⟨⟨s, rest'⟩, hs, rfl⟩ := map_eq_ok_iff.mp h
  exact map_eq_ok_iff.mpr ⟨_, settles_readBody false [] hs more, rfl⟩

/-- A string is over with its closing quote. -/
theorem settles_readString : Settles readString :=
  settles_afterSpaces _ fun _ =>
    settles_ite ((settles_readBody true []).map String.ofList) (settles_error _)

theorem settles_readBool : Settles readBool :=
  settles_afterSpaces _ fun _ =>
    settles_ite ((settles_readWord _).map fun _ => true) <|
      settles_ite ((settles_readWord _).map fun _ => false) (settles_error _)

theorem settles_readNull : Settles readNull :=
  settles_afterSpaces _ fun _ => settles_ite (settles_readWord _) (settles_error _)

theorem settles_readColon : Settles readColon :=
  settles_afterSpaces _ fun _ => settles_ite (settles_ok ()) (settles_error _)

/-! ### Numbers -/

variable (more : List Char)

/-- Digits that something follows do not go on. -/
theorem digits_append (h : dropDigits text ≠ []) :
    leadingDigits (text ++ more) = leadingDigits text ∧
      dropDigits (text ++ more) = dropDigits text ++ more := by
  -- something other than digits is left, so the digits are not all of the text
  have hlength : (leadingDigits text).length ≠ text.length := by
    have hsplit : leadingDigits text ++ dropDigits text = text := List.takeWhile_append_dropWhile
    have hpos := List.length_pos_of_ne_nil h
    have := congrArg List.length hsplit
    rw [List.length_append] at this
    omega
  have hempty : ¬ (dropDigits text).isEmpty := fun hempty => h (List.isEmpty_iff.mp hempty)
  exact ⟨List.takeWhile_append.trans (if_neg hlength), List.dropWhile_append.trans (if_neg hempty)⟩

/-- Digits are over if something else follows. -/
theorem skipDigits_append (h : skipDigits text = .ok rest) (hrest : rest ≠ []) :
    leadingDigits (text ++ more) = leadingDigits text ∧
      skipDigits (text ++ more) = .ok (rest ++ more) := by
  unfold skipDigits at h ⊢
  split at h
  · cases h
  · rename_i hempty
    obtain rfl := Except.ok.inj h
    obtain ⟨hleading, hdrop⟩ := digits_append more hrest
    exact ⟨hleading, by rw [hleading, hdrop, if_neg hempty]⟩

/-- Digits behind a sign, or without one. -/
theorem skipDigits_takeSign_append (h : skipDigits (takeSign text).2 = .ok rest)
    (hrest : rest ≠ []) :
    skipDigits (takeSign (text ++ more)).2 = .ok (rest ++ more) := by
  unfold takeSign at h ⊢
  split at h
  · exact (skipDigits_append more h hrest).2
  · exact (skipDigits_append more h hrest).2
  · rename_i hplus hminus
    -- what is no sign at the start of the text is none at the start of the longer one
    cases text with
    | nil => cases h
    | cons c text =>
      rw [List.cons_append]
      split
      · rename_i heq
        exact absurd (congrArg (· :: text) (List.cons.inj heq).1) (hplus text)
      · rename_i heq
        exact absurd (congrArg (· :: text) (List.cons.inj heq).1) (hminus text)
      · exact (skipDigits_append more h hrest).2

theorem skipPower_append (h : skipPower text = .ok rest) (hrest : rest ≠ []) :
    skipPower (text ++ more) = .ok (rest ++ more) := by
  unfold skipPower at h
  split at h
  · exact skipDigits_takeSign_append more h hrest
  · exact skipDigits_takeSign_append more h hrest
  · rename_i hsmall hlarge
    obtain rfl := Except.ok.inj h
    cases text with
    | nil => exact absurd rfl hrest
    | cons c text =>
      rw [List.cons_append, skipPower]
      · exact fun r heq => hsmall text (congrArg (· :: text) (List.cons.inj heq).1)
      · exact fun r heq => hlarge text (congrArg (· :: text) (List.cons.inj heq).1)

/-- The part of a number after its whole part. -/
theorem skipFraction_append
    (h : (match text with
      | '.' :: r => skipDigits r >>= skipPower
      | r => skipPower r) = .ok rest) (hrest : rest ≠ []) :
    (match text ++ more with
      | '.' :: r => skipDigits r >>= skipPower
      | r => skipPower r) = .ok (rest ++ more) := by
  cases text with
  | nil => exact absurd (Except.ok.inj h).symm hrest
  | cons c text =>
    rw [List.cons_append]
    split at h
    · rename_i r heq
      obtain ⟨rfl, rfl⟩ := List.cons.inj heq
      obtain ⟨r', hfraction, h⟩ := bind_eq_ok_iff.mp h
      -- with nothing behind its digits the number would be over, and nothing left
      have hr' : r' ≠ [] := by
        rintro rfl
        exact hrest (Except.ok.inj h).symm
      exact bind_eq_ok_iff.mpr
        ⟨_, (skipDigits_append more hfraction hr').2, skipPower_append more h hrest⟩
    · rename_i hpoint
      split
      · rename_i r heq
        exact absurd (congrArg (· :: text) (List.cons.inj heq).1) (hpoint text)
      · exact skipPower_append more h hrest

/-- **A number that something follows does not go on.** -/
theorem skipNumber_append (h : skipNumber text = .ok rest) (hrest : rest ≠ []) :
    skipNumber (text ++ more) = .ok (rest ++ more) := by
  unfold skipNumber at h
  split at h
  · cases h
  · rename_i hzero
    obtain ⟨text', hwhole, h⟩ := bind_eq_ok_iff.mp h
    -- at the end of the text the number would be over
    have htext' : text' ≠ [] := by
      rintro rfl
      exact hrest (Except.ok.inj h).symm
    obtain ⟨hleading, hwhole'⟩ := skipDigits_append more hwhole htext'
    rw [skipNumber, hleading, if_neg hzero, hwhole', ok_bind]
    exact skipFraction_append more h hrest

/-! ### Values that are passed over -/

theorem skipScalar_append (h : skipScalar text = .ok rest) (hrest : rest ≠ []) :
    skipScalar (text ++ more) = .ok (rest ++ more) := by
  have hword : ∀ ws cs, (readWord ws cs).map Prod.snd = .ok rest →
      (readWord ws (cs ++ more)).map Prod.snd = .ok (rest ++ more) := fun ws cs h =>
    map_eq_ok_iff.mpr ⟨_, settles_readWord ws (map_snd_eq_ok h) more, rfl⟩
  cases text with
  | nil => cases h
  | cons c text =>
    rw [List.cons_append]
    rw [skipScalar] at h ⊢
    split_ifs at h ⊢
    · exact hword _ _ h
    · exact hword _ _ h
    · exact hword _ _ h
    · exact skipBody_append h more
    · exact skipNumber_append more h hrest
    · exact skipNumber_append more h hrest

/-- A name is over with its colon. -/
theorem skipKey_append (h : skipKey text = .ok rest) :
    skipKey (text ++ more) = .ok (rest ++ more) := by
  unfold skipKey at h ⊢
  cases hskip : skipSpaces text with
  | nil =>
    rw [hskip] at h
    cases h
  | cons c text' =>
    rw [hskip] at h
    rw [skipSpaces_append hskip]
    simp only at h ⊢
    split at h
    · rename_i hc
      obtain ⟨r, hbody, h⟩ := bind_eq_ok_iff.mp h
      obtain ⟨⟨u, r'⟩, hcolon, h⟩ := bind_eq_ok_iff.mp h
      obtain rfl := Except.ok.inj h
      rw [if_pos hc, skipBody_append hbody more, ok_bind, settles_readColon hcolon more, ok_bind]
      rfl
    · cases h

/-- Where nothing is left, nothing is left afterwards. -/
theorem skipFrom_next_nil {stack : List Enclosure} (h : skipFrom .next stack [] = .ok rest) :
    rest = [] := by
  cases stack with
  | nil =>
    rw [skipFrom] at h
    exact (Except.ok.inj h).symm
  | cons inside outer =>
    rw [skipFrom_next] at h
    cases h

/-- **A value is passed over in a longer text as well**, one step after the other. -/
theorem skipFrom_append {need : Need} {stack : List Enclosure}
    (h : skipFrom need stack text = .ok rest) (hrest : rest ≠ []) :
    skipFrom need stack (text ++ more) = .ok (rest ++ more) := by
  -- the cases are those of the definition; where it ends with a fault there is nothing to prove
  fun_induction skipFrom need stack text with
  | case1 | case5 | case6 | case10 | case12 | case16 | case17 => cases h
  | case2 stack text text' hskip ih =>
    rw [skipFrom_value, skipSpaces_append hskip]
    exact ih h
  | case3 stack text text' hskip hlist ih =>
    rw [skipFrom_value, skipSpaces_append hskip]
    exact ih h
  | case4 stack text c text' hskip hlist hobject text'' hscalar ih =>
    -- the value may be a number, so something must be left after it
    have hleft : text'' ≠ [] := by
      rintro rfl
      exact hrest (skipFrom_next_nil h)
    have hscalar' : skipScalar (c :: (text' ++ more)) = .ok (text'' ++ more) :=
      skipScalar_append more hscalar hleft
    rw [skipFrom_value, skipSpaces_append hskip]
    simp only [if_neg hlist, if_neg hobject, hscalar', ok_bind]
    exact ih h
  | case7 stack text inside text' hskip ih =>
    rw [skipFrom_first, skipSpaces_append hskip]
    simp only [if_true]
    exact ih h
  | case8 stack text c text' hskip hclosing ih =>
    rw [skipFrom_first, skipSpaces_append hskip]
    simp only [if_neg hclosing]
    exact ih h
  | case9 stack text c text' hskip text'' hkey hclosing ih =>
    have hkey' : skipKey (c :: (text' ++ more)) = .ok (text'' ++ more) := skipKey_append more hkey
    rw [skipFrom_first, skipSpaces_append hskip]
    simp only [if_neg hclosing, hkey', ok_bind]
    exact ih h
  | case11 text =>
    obtain rfl := Except.ok.inj h
    rw [skipFrom]
  | case13 text inside outer text' hskip ih =>
    rw [skipFrom_next, skipSpaces_append hskip]
    simp only [if_true]
    exact ih h
  | case14 text outer text' hskip hclosing ih =>
    rw [skipFrom_next, skipSpaces_append hskip]
    exact ih h
  | case15 text outer text' text'' hkey hskip hclosing ih =>
    rw [skipFrom_next, skipSpaces_append hskip]
    simp only [if_neg hclosing, if_true, skipKey_append more hkey, ok_bind]
    exact ih h

/-- A value is over if something follows it. -/
theorem settlesBefore_skipValue : SettlesBefore skipValue := by
  intro text u rest h hrest more
  obtain ⟨rest', hskip, heq⟩ := map_eq_ok_iff.mp h
  obtain ⟨rfl, rfl⟩ := Prod.mk.inj heq
  exact map_eq_ok_iff.mpr ⟨_, skipFrom_append more hskip hrest, rfl⟩

/-! ### What stands between brackets -/

/-- A reader that looks at a character and leaves it. -/
theorem settles_left (a : α) (c : Char) : Settles fun text => .ok (a, c :: text) := by
  intro text b rest h more
  obtain ⟨rfl, rfl⟩ := Prod.mk.inj (Except.ok.inj h)
  rfl

/-- Whether there is an item shows at its first character. -/
theorem settles_hasItem (isFirst : Bool) : Settles (hasItem isFirst) :=
  settles_afterSpaces _ fun _ =>
    settles_ite (settles_left false _) <| settles_ite (settles_left true _) <|
      settles_ite
        (settles_afterSpaces _ fun _ => settles_ite (settles_error _) (settles_left true _))
        (settles_error _)

/-- Whether there is a member shows at its quote. -/
theorem settles_hasMember (isFirst : Bool) : Settles (hasMember isFirst) :=
  settles_afterSpaces _ fun _ =>
    settles_ite (settles_left false _) <|
      settles_ite (settles_ite (settles_ok true) (settles_error _)) <|
        settles_ite
          (settles_afterSpaces _ fun _ =>
            settles_ite (settles_ok true) (settles_ite (settles_error _) (settles_error _)))
          (settles_error _)

/-- Where no item follows, the text is left at the closing bracket. -/
theorem hasItem_false {isFirst : Bool} (h : hasItem isFirst text = .ok (false, rest)) :
    ∃ rest', rest = ']' :: rest' := by
  unfold hasItem at h
  split at h
  · cases h
  · split_ifs at h
    · subst_vars
      exact ⟨_, (Prod.mk.inj (Except.ok.inj h)).2.symm⟩
    · cases h
    · split at h
      · cases h
      · split_ifs at h
        cases h

/-- Without a member, an object is over. -/
theorem hasMember_false {isFirst : Bool} (h : hasMember isFirst text = .ok (false, rest)) :
    ∃ rest', rest = '}' :: rest' := by
  unfold hasMember at h
  split at h
  · cases h
  · split_ifs at h
    · subst_vars
      exact ⟨_, (Prod.mk.inj (Except.ok.inj h)).2.symm⟩
    · cases h
    · split at h
      · cases h
      · split_ifs at h
        cases h

/-- Something follows each item, if only the closing bracket. -/
theorem ne_nil_of_readItems {read : Reader α} {as : List α}
    (h : readItems read false text = .ok (as, rest)) : text ≠ [] := by
  rintro rfl
  rw [readItems] at h
  cases h

/-- Behind its first members an object still has its closing bracket. -/
theorem ne_nil_of_readMembers {member : σ → String → Except Fault (Reader σ)} {state state' : σ}
    (h : readMembers member false state text = .ok (state', rest)) : text ≠ [] := by
  rintro rfl
  rw [readMembers] at h
  cases h

/-- **The items of a list** are over with its closing bracket. -/
theorem settles_readItems {read : Reader α} (hread : SettlesBefore read) (isFirst : Bool) :
    Settles (readItems read isFirst) := by
  intro text as rest h more
  fun_induction readItems read isFirst text generalizing as rest with
  | case1 | case3 | case4 | case6 => cases h
  | case2 isFirst text rest hdone =>
    -- the closing bracket is there, so it is what is taken off the longer text too
    obtain ⟨rfl, rfl⟩ := Prod.mk.inj (Except.ok.inj h)
    obtain ⟨rest, rfl⟩ := hasItem_false hdone
    simp only [readItems, settles_hasItem isFirst hdone more]
    rfl
  | case5 isFirst text start hitem a text' ha hlength as' rest' hitems ih =>
    obtain ⟨rfl, rfl⟩ := Prod.mk.inj (Except.ok.inj h)
    -- the longer text is shorter behind the item as well
    have hlength' : (text' ++ more).length < (text ++ more).length := by
      rw [List.length_append, List.length_append]
      omega
    simp only [readItems, settles_hasItem isFirst hitem more,
      hread ha (ne_nil_of_readItems hitems) more, if_pos hlength', ih hitems]

/-- **The members of an object** are over with its closing bracket. -/
theorem settles_readMembers {member : σ → String → Except Fault (Reader σ)}
    (hmember : ∀ ⦃state name read⦄, member state name = .ok read → SettlesBefore read)
    (isFirst : Bool) (state : σ) : Settles (readMembers member isFirst state) := by
  intro text state' rest h more
  fun_induction readMembers member isFirst state text with
  | case1 | case3 | case4 | case5 | case6 | case8 => cases h
  | case2 isFirst state text rest hdone =>
    obtain ⟨rfl, rfl⟩ := Prod.mk.inj (Except.ok.inj h)
    obtain ⟨rest, rfl⟩ := hasMember_false hdone
    simp only [readMembers, settles_hasMember isFirst hdone more]
    rfl
  | case7 isFirst state text t₁ hnext name t₂ hname read hread u t₃ hcolon state' t₄ hvalue hlength
      ih =>
    have hlength' : (t₄ ++ more).length < (text ++ more).length := by
      rw [List.length_append, List.length_append]
      omega
    simp only [readMembers, settles_hasMember isFirst hnext more,
      settles_readBody true [] hname more, hread, settles_readColon hcolon more,
      hmember hread hvalue (ne_nil_of_readMembers h) more, if_pos hlength', ih h]

/-- A list is over with its closing bracket. -/
theorem settles_readList {read : Reader α} (hread : SettlesBefore read) : Settles (readList read) :=
  settles_afterSpaces _ fun _ => settles_ite (settles_readItems hread true) (settles_error _)

theorem settles_readListEnd : Settles readListEnd :=
  settles_afterSpaces _ fun _ =>
    settles_ite (settles_ok ()) (settles_ite (settles_error _) (settles_error _))

/-- Parameters are over with their closing bracket. -/
theorem settles_readParams : Settles readParams := by
  refine settles_afterSpaces _ fun _ =>
    settles_ite (settles_readMembers ?_ true _) (settles_error _)
  intro params name read hread
  obtain rfl := Except.ok.inj hread
  exact Settles.before (settles_readString.bind fun value => settles_ok (params.insert name value))

/-! ### Codes -/

theorem settles_readVariantEnd : Settles readVariantEnd :=
  settles_afterSpaces _ fun _ => settles_ite (settles_ok ()) (settles_error _)

/-- A code is over with its quote or its bracket. -/
theorem settles_readVariant (variants : List (String × α)) : Settles (readVariant variants) := by
  refine settles_afterSpaces _ fun c => settles_ite ?string (settles_ite ?object (settles_error _))
  case string =>
    exact (settles_readBody true []).bind fun _ => settles_decided fun a => settles_ok a
  case object =>
    refine settles_afterSpaces _ fun c => settles_ite ?_ (settles_error _)
    exact (settles_readBody true []).bind fun _ => settles_decided fun a =>
      settles_readColon.bind fun _ => settles_readNull.bind fun _ =>
        settles_readVariantEnd.bind fun _ => settles_ok a

theorem settles_readTerm [Enumeration α] : Settles (readTerm α) := settles_readVariant _

/-- `null` or a value, for a reader that finds none in blanks. -/
theorem settles_readOptional {read : Reader α} (hread : Settles read)
    (hneeds : ∀ ⦃text p⦄, read text = .ok p → skipSpaces text ≠ []) :
    Settles (readOptional read) := by
  intro text a rest h more
  unfold readOptional at h ⊢
  split at h
  · rename_i text' hskip
    simp only [skipSpaces_append hskip]
    exact (settles_readWord _).map (fun _ => none) h more
  · rename_i hnull
    have hvalue := hread.map some h more
    -- a value was found, so it is not `null` that the longer text begins with
    obtain ⟨p, hp, -⟩ := map_eq_ok_iff.mp h
    obtain ⟨c, text', hskip⟩ := List.exists_cons_of_ne_nil (hneeds hp)
    split
    · rename_i text'' hskip'
      rw [skipSpaces_append hskip] at hskip'
      obtain ⟨rfl, -⟩ := List.cons.inj hskip'
      exact absurd hskip (hnull text')
    · exact hvalue

/-- A string begins with something. -/
theorem skipSpaces_ne_nil_of_readString {p : String × List Char} (h : readString text = .ok p) :
    skipSpaces text ≠ [] := by
  intro hskip
  rw [readString, hskip] at h
  cases h

/-! ### Records -/

namespace Schema

variable {δ ρ : Type} {schema : Schema δ ρ}

/-- A member settles if its field does. -/
theorem settlesBefore_member (h : ∀ f ∈ schema.fields, ∀ draft, Settles (f.read draft))
    ⦃draft : δ⦄ ⦃name : String⦄ ⦃read : Reader δ⦄ (hread : schema.member draft name = .ok read) :
    SettlesBefore read := by
  unfold member at hread
  split at hread
  · -- a member of a field settles with its value, any other where something follows
    rename_i f hf
    split at hread
    · cases hread
    · obtain rfl := Except.ok.inj hread
      exact (h f (List.mem_of_find?_eq_some hf) draft).before
  · obtain rfl := Except.ok.inj hread
    intro text draft' rest hread hrest more
    obtain ⟨⟨u, rest'⟩, hskip, heq⟩ := bind_eq_ok_iff.mp hread
    obtain ⟨rfl, rfl⟩ := Prod.mk.inj (Except.ok.inj heq)
    exact bind_eq_ok_iff.mpr ⟨_, settlesBefore_skipValue hskip hrest more, rfl⟩

/-- Fields in a list settle one by one. -/
theorem settles_readFields (fields : List (Field δ))
    (h : ∀ f ∈ fields, ∀ draft, Settles (f.read draft)) (draft : δ) (count : Nat) :
    Settles (schema.readFields draft count fields) := by
  induction fields generalizing draft count with
  | nil => exact settles_ok draft
  | cons f fields ih =>
    rw [List.forall_mem_cons] at h
    refine (settles_hasItem _).bind fun more => settles_ite ?_ (settles_ite ?_ (settles_error _))
    · exact (h.1 draft).bind fun draft' => ih h.2 draft' _
    · exact ih h.2 draft count

/-- **A record is settled** when its fields are. -/
theorem settles_read (h : ∀ f ∈ schema.fields, ∀ draft, Settles (f.read draft)) :
    Settles schema.read := by
  refine settles_afterSpaces _ fun c => settles_ite ?object (settles_ite ?list (settles_error _))
  case object =>
    exact (settles_readMembers (settlesBefore_member h) true schema.empty).bind fun draft =>
      settles_decided fun record => settles_ok record
  case list =>
    exact (settles_readFields schema.fields h schema.empty 0).bind fun draft =>
      settles_decided fun record => settles_readListEnd.bind fun _ => settles_ok record

end Schema

/-! ### Whole texts -/

/-- **Of two texts that are read, the longer one has more blanks and nothing else.** -/
theorem Settles.isSpace_of_readText {read : Reader α} (h : Settles read) {cut whole : String}
    {lost : List Char} (hwhole : whole.toList = cut.toList ++ lost) {a b : α}
    (hcut : readText read cut = .ok a) (hread : readText read whole = .ok b) :
    ∀ c ∈ lost, isSpace c := by
  unfold readText at hcut hread
  split at hcut
  · cases hcut
  · rename_i a' rest ha
    -- both texts are read up to the same place, and blanks may follow it
    rw [hwhole, h ha lost] at hread
    simp only at hread
    split at hread
    · rename_i hblank
      intro c hc
      have hspaces := List.dropWhile_eq_nil_iff.mp (List.isEmpty_iff.mp hblank)
      exact hspaces c (List.mem_append_right rest hc)
    · cases hread

end MarketFeed.Json
