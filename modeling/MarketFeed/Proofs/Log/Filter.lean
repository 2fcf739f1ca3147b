import MarketFeed.Log.Filter
import MarketFeed.Proofs.Fallible
import Mathlib.Data.List.Basic

namespace MarketFeed

/-!
# Reading a log filter

* `Text.IsBoundary`, `Text.IsBoundary.exists_slice?` — byte positions between two characters, where a
  text can be taken apart.
* `Log.Directive.Survives` — a reading that does not end the program.
* `Log.Directive.survives_step`, `Log.Directive.survives_run` — one character of a directive, and all
  of them, where every position between them is one of the whole text.
* `Log.Directive.IsPlain`, `Log.Directive.survives_ofText` — texts that are read without ending the
  program: they have no blank in front, or no character beyond ASCII.
* `Log.Filter.exists_choose` — a filter of such texts is chosen.
* `Log.Filter.Explains`, `Log.Filter.explains_choose` — what is complained of.
* `Log.Filter.full`, `Log.Filter.Traces`, `Log.Filter.choose_of_traces` — the level `trace`, which
  lets everything pass.
-/

namespace Text

/-! ### Byte positions -/

variable {cs : List Char} {a b : Nat}

/-- The bytes of two texts add up. -/
theorem byteSize_append (cs ds : List Char) : byteSize (cs ++ ds) = byteSize cs + byteSize ds := by
  induction cs with
  | nil => exact (Nat.zero_add _).symm
  | cons c cs ih => rw [List.cons_append, byteSize_cons, byteSize_cons, ih, Nat.add_assoc]

/-- A character takes at least one byte, so only the empty text takes none. -/
theorem byteSize_eq_zero_iff : byteSize cs = 0 ↔ cs = [] := by
  cases cs with
  | nil => simp
  | cons c cs =>
    have hpos := c.utf8Size_pos
    simp only [byteSize_cons, reduceCtorEq, iff_false]
    omega

/-- The first characters of a text, by their size. -/
theorem slice?_zero (mid back : List Char) : slice? (mid ++ back) 0 (byteSize mid) = some mid := by
  induction mid with
  | nil => cases back <;> simp [slice?]
  | cons c mid ih =>
    have hpos := c.utf8Size_pos
    have hsize : c.utf8Size + byteSize mid - c.utf8Size = byteSize mid := by omega
    rw [List.cons_append, byteSize_cons, slice?, if_neg (by omega), if_pos (by omega), if_pos rfl,
      hsize, ih, Option.map_some]

/-- Characters in the middle of a text, by the sizes of what stands before them and of
    themselves. -/
theorem slice?_append (front mid back : List Char) :
    slice? (front ++ (mid ++ back)) (byteSize front) (byteSize front + byteSize mid) =
      some mid := by
  induction front with
  | nil =>
    rw [List.nil_append, byteSize_nil, Nat.zero_add]
    exact slice?_zero mid back
  | cons c front ih =>
    have hpos := c.utf8Size_pos
    have hfirst : c.utf8Size + byteSize front - c.utf8Size = byteSize front := by omega
    have hlast : c.utf8Size + byteSize front + byteSize mid - c.utf8Size =
        byteSize front + byteSize mid := by omega
    rw [List.cons_append, byteSize_cons, slice?, if_neg (by omega), if_pos (by omega),
      if_neg (by omega), if_pos (by omega), hfirst, hlast, ih]

/-- The byte position is at the start of a character of the text, or at the end of the text. -/
def IsBoundary (cs : List Char) (n : Nat) : Prop :=
  ∃ front back, cs = front ++ back ∧ byteSize front = n

/-- A text can be taken apart at its start. -/
theorem isBoundary_zero (cs : List Char) : IsBoundary cs 0 := ⟨[], cs, rfl, rfl⟩

theorem isBoundary_byteSize (cs : List Char) : IsBoundary cs (byteSize cs) :=
  ⟨cs, [], (List.append_nil cs).symm, rfl⟩

/-- No position lies behind the end. -/
theorem IsBoundary.le (h : IsBoundary cs a) : a ≤ byteSize cs := by
  obtain ⟨front, back, rfl, rfl⟩ := h
  rw [byteSize_append]
  omega

/-- **A text can be taken apart between two characters.** -/
theorem IsBoundary.exists_slice? (ha : IsBoundary cs a) (hb : IsBoundary cs b) (h : a ≤ b) :
    ∃ mid, slice? cs a b = some mid := by
  obtain ⟨front, back, rfl, rfl⟩ := ha
  obtain ⟨front', back', heq, rfl⟩ := hb
  -- of two beginnings of one text the longer one begins with the other
  rcases List.append_eq_append_iff.mp heq with ⟨mid, rfl, rfl⟩ | ⟨mid, rfl, rfl⟩
  · rw [byteSize_append]
    exact ⟨mid, slice?_append front mid back'⟩
  · -- the second position is not behind the first, so there is nothing between them
    rw [byteSize_append] at h
    obtain rfl := byteSize_eq_zero_iff.mp (show byteSize mid = 0 by omega)
    rw [List.append_nil]
    exact ⟨[], slice?_append front' [] back⟩

/-- In an ASCII text every position is one between characters. -/
theorem isBoundary_of_ascii (hcs : ∀ c ∈ cs, c.toNat < 0x80) (h : a ≤ byteSize cs) :
    IsBoundary cs a := by
  induction cs generalizing a with
  | nil =>
    obtain rfl : a = 0 := Nat.le_zero.mp h
    exact isBoundary_zero []
  | cons c cs ih =>
    rw [List.forall_mem_cons] at hcs
    cases a with
    | zero => exact isBoundary_zero _
    | succ a =>
      -- every character is one byte, so each byte is the start of one
      have hone : c.utf8Size = 1 := Char.utf8Size_eq_one_iff.mpr
        (UInt32.le_iff_toNat_le.mpr (show c.toNat ≤ 127 by omega))
      rw [byteSize_cons, hone] at h
      have hle : a ≤ byteSize cs := by omega
      obtain ⟨front, back, rfl, rfl⟩ := ih hcs.2 hle
      exact ⟨c :: front, back, rfl, by rw [byteSize_cons, hone, Nat.add_comm]⟩

end Text

namespace Log

open Text

namespace Directive

/-! ### Readings that do not end the program -/

/-- The reading does not end the program, and a result has the property. -/
def Survives {α : Type} (x : Except Stop α) (P : α → Prop) : Prop :=
  match x with
  | .ok a => P a
  | .error stop => stop ≠ .aborted

variable {α β : Type} {P : α → Prop} {Q : β → Prop}

/-- A refusal does not end the program. -/
theorem survives_refused (fault : Fault) :
    Survives (.error (.refused fault) : Except Stop α) P := by
  intro h
  cases h

/-- A reading in two steps. -/
theorem Survives.bind {x : Except Stop α} {f : α → Except Stop β} (hx : Survives x P)
    (hf : ∀ a, P a → Survives (f a) Q) : Survives (x >>= f) Q := by
  cases x with
  | ok a => exact hf a hx
  | error stop => exact hx

variable {whole : List Char} {a i : Nat}

/-- Between two positions between characters there is a text. -/
theorem survives_slice (ha : IsBoundary whole a) (hi : IsBoundary whole i) (h : a ≤ i) :
    Survives (slice whole a i) fun _ => True := by
  obtain ⟨mid, hmid⟩ := ha.exists_slice? hi h
  rw [slice, hmid]
  trivial

theorem survives_fieldOf (cs : List Char) : Survives (fieldOf cs) fun _ => True := by
  unfold fieldOf
  split
  · exact survives_refused _
  · cases Field.ofText cs with
    | ok field => trivial
    | error fault => exact survives_refused _

theorem survives_verbosityOf (cs : List Char) : Survives (verbosityOf cs) fun _ => True := by
  unfold verbosityOf
  split
  · trivial
  · cases Verbosity.ofText? cs with
    | some v => trivial
    | none => exact survives_refused _

/-- Where the text that is being read began. -/
def State.first? : State → Option Nat
  | .start | .fields | .target => none
  | .levelOrTarget first | .span first | .field first | .level first => some first

/-- The text that is being read began between two characters, and not behind position `i`. -/
def State.BeganBy (whole : List Char) (i : Nat) (s : State) : Prop :=
  ∀ first, s.first? = some first → IsBoundary whole first ∧ first ≤ i

/-- What began by some position began by every later one. -/
theorem State.BeganBy.mono {s : State} {j : Nat} (h : s.BeganBy whole i) (hle : i ≤ j) :
    s.BeganBy whole j := by
  intro first hfirst
  exact ⟨(h first hfirst).1, Nat.le_trans (h first hfirst).2 hle⟩

/-- A text begins at a position. -/
theorem State.beganBy_of_first? {s : State} {j : Nat} (hfirst? : s.first? = some j)
    (hj : IsBoundary whole j) : s.BeganBy whole j := by
  intro first hfirst
  obtain rfl := Option.some.inj (hfirst?.symm.trans hfirst)
  exact ⟨hj, Nat.le_refl j⟩

/-- No text has begun. -/
theorem State.beganBy_of_none {s : State} (h : s.first? = none) : s.BeganBy whole i := by
  intro first hfirst
  rw [h] at hfirst
  cases hfirst

/-- **One character of a directive.**  Where the text is taken apart, it is so between two characters,
    and the next text begins there too. -/
theorem survives_step {c : Char} {state : State} {d : Directive} (hstate : state.BeganBy whole i)
    (hi : IsBoundary whole i) (hnext : IsBoundary whole (i + c.utf8Size)) :
    Survives (step whole i c state d) fun p => p.1.BeganBy whole (i + c.utf8Size) := by
  -- the characters behind which a text begins take one byte each
  have hone : ∀ s : State, c.utf8Size = 1 → s.first? = some (i + 1) →
      s.BeganBy whole (i + c.utf8Size) := by
    intro s hsize hfirst
    rw [hsize] at hnext ⊢
    exact State.beganBy_of_first? hfirst hnext
  have hsame : state.BeganBy whole (i + c.utf8Size) := hstate.mono (Nat.le_add_right _ _)
  cases state with
  | start =>
    rw [step]
    split
    · rename_i hc
      exact hone _ (by rw [hc]; rfl) rfl
    split
    · exact (State.beganBy_of_first? rfl hi).mono (Nat.le_add_right _ _)
    · exact survives_refused _
  | levelOrTarget first =>
    obtain ⟨hfirst, hle⟩ := hstate first rfl
    rw [step]
    split
    · rename_i hc
      -- what was read so far is taken out, and the next text begins behind the character
      refine (survives_slice hfirst hi hle).bind fun name _ => ?_
      have hsize : c.utf8Size = 1 := by rcases hc with rfl | rfl <;> rfl
      refine hone _ hsize ?_
      dsimp only
      split <;> rfl
    · exact hsame
  | span first =>
    obtain ⟨hfirst, hle⟩ := hstate first rfl
    rw [step]
    split
    · exact (survives_slice hfirst hi hle).bind fun name _ => State.beganBy_of_none rfl
    split
    · rename_i hc
      exact (survives_slice hfirst hi hle).bind fun name _ => hone _ (by rw [hc]; rfl) rfl
    · exact hsame
  | field first =>
    obtain ⟨hfirst, hle⟩ := hstate first rfl
    rw [step]
    split
    · exact (survives_slice hfirst hi hle).bind fun name _ =>
        (survives_fieldOf name).bind fun field _ => State.beganBy_of_none rfl
    · exact hsame
  | fields =>
    rw [step]
    split
    · exact State.beganBy_of_none rfl
    · exact survives_refused _
  | target =>
    rw [step]
    split
    · rename_i hc
      exact hone _ (by rw [hc]; rfl) rfl
    · exact survives_refused _
  | level first => exact hsame

/-- **All characters of a directive.**  They are `rest` of what is left of the text without blanks, and
    each position between them is one of the whole text. -/
theorem survives_run {rest front : List Char} {state : State} {d : Directive}
    (hwhole : ∀ front' back, front ++ rest = front' ++ back → IsBoundary whole (byteSize front'))
    (hstate : state.BeganBy whole (byteSize front)) :
    Survives (run whole (byteSize front) state d rest) fun p =>
      p.1.BeganBy whole (byteSize whole) := by
  induction rest generalizing front state d with
  | nil => exact hstate.mono (hwhole front [] rfl).le
  | cons c rest ih =>
    -- the character moves from the rest to the front
    have hnext : byteSize front + c.utf8Size = byteSize (front ++ [c]) := by
      rw [byteSize_append, byteSize_cons, byteSize_nil, Nat.add_zero]
    have hsplit : front ++ c :: rest = (front ++ [c]) ++ rest := by
      rw [List.append_assoc, List.singleton_append]
    rw [run]
    have hstep := survives_step (d := d) hstate (hwhole front (c :: rest) rfl)
      (hnext ▸ hwhole (front ++ [c]) rest hsplit)
    refine hstep.bind fun p hp => ?_
    rw [hnext] at hp ⊢
    exact ih (hsplit ▸ hwhole) hp

/-- The end of a directive. -/
theorem survives_finish {state : State} {d : Directive}
    (hstate : state.BeganBy whole (byteSize whole)) :
    Survives (finish whole state d) fun _ => True := by
  cases state with
  | levelOrTarget first =>
    obtain ⟨hfirst, hle⟩ := hstate first rfl
    refine (survives_slice hfirst (isBoundary_byteSize whole) hle).bind fun rest _ => ?_
    cases Verbosity.ofText? rest <;> trivial
  | level first =>
    obtain ⟨hfirst, hle⟩ := hstate first rfl
    exact (survives_slice hfirst (isBoundary_byteSize whole) hle).bind fun rest _ =>
      (survives_verbosityOf rest).bind fun v _ => trivial
  | target => trivial
  | start => exact survives_refused _
  | span first => exact survives_refused _
  | field first => exact survives_refused _
  | fields => exact survives_refused _

/-- The text of a directive has no blank in front, or no character beyond ASCII. -/
def IsPlain (text : String) : Prop :=
  (∀ c, text.toList.head? = some c → ¬ isBlank c) ∨ ∀ c ∈ text.toList, c.toNat < 0x80

/-- A text without blanks in front begins with what is left of it without blanks. -/
theorem trimChars_prefix {cs : List Char} (h : ∀ c, cs.head? = some c → ¬ isBlank c) :
    trimChars cs <+: cs := by
  have hfront : cs.dropWhile isBlank = cs := by
    cases cs with
    | nil => rfl
    | cons c cs => rw [List.dropWhile_cons, if_neg (h c rfl)]
  obtain ⟨blanks, hblanks⟩ := List.dropWhile_suffix isBlank (l := cs.reverse)
  refine ⟨blanks.reverse, ?_⟩
  rw [trimChars, hfront, ← List.reverse_append, hblanks, List.reverse_reverse]

/-- What is left of a text without blanks is not longer. -/
theorem trimChars_infix (cs : List Char) : trimChars cs <:+: cs := by
  have hback := List.dropWhile_suffix isBlank (l := (cs.dropWhile isBlank).reverse)
  have hfront := List.dropWhile_suffix isBlank (l := cs)
  rw [← List.reverse_prefix, List.reverse_reverse] at hback
  exact hback.isInfix.trans hfront.isInfix

/-- **The reading of such a text does not end the program**, as positions in the text without blanks
    are positions between characters of the whole text. -/
theorem survives_ofText {text : String} (h : IsPlain text) :
    Survives (ofText text) fun _ => True := by
  have hwhole : ∀ front back, trimChars text.toList = front ++ back →
      IsBoundary text.toList (byteSize front) := by
    intro front back htrim
    -- positions are counted from the first character that is no blank
    rcases h with hblank | hascii
    · obtain ⟨blanks, hblanks⟩ := trimChars_prefix hblank
      exact ⟨front, back ++ blanks, by rw [← hblanks, htrim, List.append_assoc], rfl⟩
    · -- a text of single bytes can be taken apart everywhere
      obtain ⟨before, behind, hbetween⟩ := trimChars_infix text.toList
      refine isBoundary_of_ascii hascii ?_
      rw [← hbetween, htrim]
      simp only [byteSize_append]
      omega
  have hrun : Survives (run text.toList (byteSize []) .start {} (trimChars text.toList)) fun p =>
      p.1.BeganBy text.toList (byteSize text.toList) :=
    survives_run hwhole (State.beganBy_of_none rfl)
  exact hrun.bind fun p hp => survives_finish hp

/-- Such texts are read one after another. -/
theorem survives_mapM {texts : List String} (h : ∀ text ∈ texts, IsPlain text) :
    Survives (texts.mapM ofText) fun _ => True := by
  induction texts with
  | nil => trivial
  | cons text texts ih =>
    rw [List.forall_mem_cons] at h
    rw [List.mapM_cons]
    exact (survives_ofText h.1).bind fun d _ => (ih h.2).bind fun ds _ => trivial

end Directive

namespace Filter

/-! ### Reading all directives -/

variable {preferred? : Option String} {level text : String}

/-- The text of a filter has only plain directives. -/
def IsPlain (text : String) : Prop := ∀ piece ∈ pieces text, Directive.IsPlain piece

/-- A filter of plain directives is read, or found to be none. -/
theorem exists_ofText? (h : IsPlain text) : ∃ filter?, ofText? text = .ok filter? := by
  have hread := Directive.survives_mapM h
  unfold ofText?
  cases hpieces : (pieces text).mapM Directive.ofText with
  | ok directives => exact ⟨_, rfl⟩
  | error stop =>
    cases stop with
    | refused fault => exact ⟨_, rfl⟩
    | aborted =>
      rw [hpieces] at hread
      exact absurd rfl hread

/-- Plain directives are taken one after another. -/
theorem exists_foldlM_take {texts : List String} (h : ∀ piece ∈ texts, Directive.IsPlain piece)
    (s : Choice) : ∃ s', texts.foldlM Choice.take s = .ok s' := by
  induction texts generalizing s with
  | nil => exact ⟨s, rfl⟩
  | cons piece texts ih =>
    rw [List.forall_mem_cons] at h
    have htake : ∃ s', s.take piece = .ok s' := by
      have hread := Directive.survives_ofText h.1
      unfold Choice.take
      cases hpiece : Directive.ofText piece with
      | ok d => exact ⟨_, rfl⟩
      | error stop =>
        cases stop with
        | refused fault => exact ⟨_, rfl⟩
        | aborted =>
          rw [hpiece] at hread
          exact absurd rfl hread
    obtain ⟨s', hs'⟩ := htake
    rw [List.foldlM_cons, hs', ok_bind]
    exact ih h.2 s'

/-- **A filter of plain directives is chosen.** -/
theorem exists_choose (hpreferred : ∀ text, preferred? = some text → IsPlain text)
    (hlevel : IsPlain level) : ∃ choice, choose preferred? level = .ok choice := by
  -- the level is read only where there is no preferred filter, or none that can be read
  have hlossy : ∃ choice, ofTextLossy level = .ok choice := by
    obtain ⟨s, hs⟩ := exists_foldlM_take hlevel { filter := { directives := [] } }
    exact ⟨_, by rw [ofTextLossy, hs, ok_bind, pure_eq_ok]⟩
  have hfilter : ∃ filter?, ofOption? preferred? = .ok filter? := by
    cases preferred? with
    | none => exact ⟨none, rfl⟩
    | some text => exact exists_ofText? (hpreferred text rfl)
  obtain ⟨filter?, hfilter⟩ := hfilter
  rw [choose, hfilter, ok_bind]
  cases filter? with
  | none => exact hlossy
  | some filter => exact ⟨_, rfl⟩

/-! ### Complaints -/

/-- Each complaint is about a piece of the text that is no directive, and says why it is none. -/
def Explains (text : String) (complaints : List String) : Prop :=
  ∀ c ∈ complaints, ∃ piece ∈ pieces text, ∃ fault,
    Directive.ofText piece = .error (.refused fault) ∧ c = complaint piece fault

/-- One more piece of the text is complained of as it should be. -/
theorem Explains.take {s s' : Choice} {piece : String} (h : Explains text s.complaints)
    (hpiece : piece ∈ pieces text) (htake : s.take piece = .ok s') :
    Explains text s'.complaints := by
  unfold Choice.take at htake
  cases hread : Directive.ofText piece with
  | ok d =>
    rw [hread] at htake
    obtain rfl := Except.ok.inj htake
    exact h
  | error stop =>
    cases stop with
    | refused fault =>
      simp only [hread] at htake
      obtain rfl := Except.ok.inj htake
      intro c hc
      rcases List.mem_append.mp hc with hc | hc
      · exact h c hc
      · exact ⟨piece, hpiece, fault, hread, List.mem_singleton.mp hc⟩
    | aborted =>
      simp only [hread] at htake
      cases htake

/-- All pieces of the text are. -/
theorem Explains.foldlM {texts : List String} {s s' : Choice} (h : Explains text s.complaints)
    (htexts : ∀ piece ∈ texts, piece ∈ pieces text)
    (hfold : texts.foldlM Choice.take s = .ok s') : Explains text s'.complaints := by
  induction texts generalizing s with
  | nil =>
    obtain rfl := Except.ok.inj hfold
    exact h
  | cons piece texts ih =>
    rw [List.forall_mem_cons] at htexts
    rw [List.foldlM_cons] at hfold
    obtain ⟨next, hnext, hfold⟩ := bind_eq_ok_iff.mp hfold
    exact ih (h.take htexts.1 hnext) htexts.2 hfold

/-- The level that a run has unless it is given another one. -/
theorem choose_info :
    choose none "info" = .ok { filter := { directives := [{ verbosity := .upTo .info }] } } := by
  decide +kernel

/-- The filter that lets everything pass. -/
def full : Filter where
  directives := [{ verbosity := .upTo .trace }]

/-- The full filter lets every event pass. -/
@[simp] theorem enabled_full (e : Event) : full.enabled e = true := by
  obtain ⟨level, target, message⟩ := e
  cases level <;> rfl

/-- The filter of a run is the level `trace`: the preferred filter says so, or there is none that can
    be read and the level of the command line says so. -/
def Traces (preferred? : Option String) (level : String) : Prop :=
  preferred? = some "trace" ∨ ofOption? preferred? = .ok none ∧ level = "trace"

/-- A text that traces is read as the full filter. -/
theorem choose_of_traces (h : Traces preferred? level) :
    choose preferred? level = .ok { filter := full } := by
  rcases h with rfl | ⟨hnone, rfl⟩
  · have htrace : ofText? "trace" = .ok (some full) := by decide +kernel
    rw [choose, ofOption?, htrace]
    rfl
  · have hlevel : ofTextLossy "trace" = .ok { filter := full } := by decide +kernel
    rw [choose, hnone, ok_bind]
    exact hlevel

end Filter

end Log

end MarketFeed
