import MarketFeed.Json.Reader

namespace MarketFeed.Json

/-!
# Passing over JSON values

A value that nobody asked for is passed over, however deep it is nested.

* `skipScalar`, `skipKey` — a value without brackets, and the name and colon in front of a member.
* `Need` — what must come next.
* `skipFrom` — passes over the rest of a value, with the list of the brackets that are still open.
* `skipValue` — passes over one whole value.
-/

/-- The bracket that closes an enclosure. -/
def Enclosure.closing : Enclosure → Char
  | .list => ']'
  | .object => '}'

/-- Reads the colon between a name and its value. -/
def readColon : Reader Unit := fun cs =>
  match skipSpaces cs with
  | [] => .error (.endOfInput .object)
  | c :: rest => if c = ':' then .ok ((), rest) else .error .expectedColon

/-- Passes over a value that has no brackets. -/
def skipScalar (cs : List Char) : Except Fault (List Char) :=
  match cs with
  | [] => .error (.endOfInput .value)
  | c :: rest =>
    if c = 'n' then (readWord "ull".toList rest).map Prod.snd
    else if c = 't' then (readWord "rue".toList rest).map Prod.snd
    else if c = 'f' then (readWord "alse".toList rest).map Prod.snd
    else if c = '"' then skipBody rest
    else if c = '-' then skipNumber rest
    else if c.isDigit then skipNumber cs
    else .error .expectedValue

/-- Passes over the name and the colon of a member. -/
def skipKey (cs : List Char) : Except Fault (List Char) :=
  match skipSpaces cs with
  | [] => .error (.endOfInput .object)
  | c :: rest =>
    if c = '"' then do
      let rest ← skipBody rest
      let (_, rest) ← readColon rest
      return rest
    else .error .keyMustBeString

theorem readColon_length {cs rest : List Char} (h : readColon cs = .ok ((), rest)) :
    rest.length < cs.length := by
  unfold readColon at h
  have hs := skipSpaces_length cs
  split at h
  · cases h
  · rename_i c r hr
    rw [hr] at hs
    split at h
    · cases h; simp only [List.length_cons] at hs; omega
    · cases h

/-- A reader that gives nothing back is known by what it leaves. -/
theorem map_snd_eq_ok {r : Except Fault (Unit × List Char)} {rest : List Char}
    (h : r.map Prod.snd = .ok rest) : r = .ok ((), rest) := by
  cases r with
  | error e => cases h
  | ok p => cases h; rfl

/-- A value that is no enclosure takes at least one character. -/
theorem skipScalar_length {cs rest : List Char} (h : skipScalar cs = .ok rest) :
    rest.length < cs.length := by
  unfold skipScalar at h
  split at h
  · cases h
  · rename_i c r
    split at h
    · have := readWord_length (map_snd_eq_ok h)
      simp only [List.length_cons]; omega
    · split at h
      · have := readWord_length (map_snd_eq_ok h)
        simp only [List.length_cons]; omega
      · split at h
        · have := readWord_length (map_snd_eq_ok h)
          simp only [List.length_cons]; omega
        · split at h
          · have := skipBody_length h
            simp only [List.length_cons]; omega
          · split at h
            · have := skipNumber_length h
              simp only [List.length_cons]; omega
            · split at h
              · exact skipNumber_length h
              · cases h

theorem skipKey_length {cs rest : List Char} (h : skipKey cs = .ok rest) :
    rest.length < cs.length := by
  unfold skipKey at h
  have hs := skipSpaces_length cs
  split at h
  · cases h
  · rename_i c r hr
    rw [hr] at hs
    simp only [List.length_cons] at hs
    split at h
    · simp only [bind, Except.bind] at h
      split at h
      · cases h
      · rename_i s hb
        have := skipBody_length hb
        split at h
        · cases h
        · rename_i p hp
          have := readColon_length hp
          cases h; omega
    · cases h

/-! ### Nested values -/

/-- What must come next. -/
inductive Need
  /-- A value. -/
  | value
  /-- The first item of an enclosure just opened, or its end. -/
  | first (inside : Enclosure)
  /-- A comma or the end of the innermost enclosure. -/
  | next
  deriving DecidableEq, Repr

/-- How far a need is from taking a character. -/
def Need.rank : Need → Nat
  | .first _ => 1
  | _ => 0

/-- Passes over the rest of a value, where `enclosing` holds the enclosures that are open, the
    innermost first. -/
def skipFrom (need : Need) (enclosing : List Enclosure) (cs : List Char) :
    Except Fault (List Char) :=
  match need with
  | .value =>
    match _hs : skipSpaces cs with
    | [] => .error (.endOfInput .value)
    | c :: rest =>
      if c = '[' then skipFrom (.first .list) enclosing rest
      else if c = '{' then skipFrom (.first .object) enclosing rest
      else
        match _h : skipScalar (c :: rest) with
        | .ok rest' => skipFrom .next enclosing rest'
        | .error e => .error e
  | .first inside =>
    match _hs : skipSpaces cs with
    | [] => .error (.endOfInput inside.place)
    | c :: rest =>
      if c = inside.closing then skipFrom .next enclosing rest
      else
        match inside with
        | .list => skipFrom .value (.list :: enclosing) (c :: rest)
        | .object =>
          match _h : skipKey (c :: rest) with
          | .ok rest' => skipFrom .value (.object :: enclosing) rest'
          | .error e => .error e
  | .next =>
    match enclosing with
    | [] => .ok cs
    | inside :: outer =>
      match _hs : skipSpaces cs with
      | [] => .error (.endOfInput inside.place)
      | c :: rest =>
        if c = inside.closing then skipFrom .next outer rest
        else if c = ',' then
          match inside with
          | .list => skipFrom .value (.list :: outer) rest
          | .object =>
            match _h : skipKey rest with
            | .ok rest' => skipFrom .value (.object :: outer) rest'
            | .error e => .error e
        else .error (.expectedCommaOrEnd inside)
termination_by 2 * cs.length + need.rank
decreasing_by
  all_goals
    have hlen := skipSpaces_length cs
    rw [_hs] at hlen
    simp only [List.length_cons, Need.rank] at hlen ⊢
  · omega
  · omega
  · have := skipScalar_length _h
    simp only [List.length_cons] at this; omega
  · omega
  · omega
  · have := skipKey_length _h
    simp only [List.length_cons] at this; omega
  · omega
  · omega
  · have := skipKey_length _h
    omega

/-- Passes over one value. -/
def skipValue : Reader Unit := fun cs => (skipFrom .value [] cs).map fun rest => ((), rest)

end MarketFeed.Json
