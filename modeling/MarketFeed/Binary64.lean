namespace MarketFeed

/-!
# Binary floating-point numbers

Finite non-negative numbers of IEEE 754 binary64, with exact rational arithmetic underneath.

* `Binary64` — a number `mantissa · 2 ^ exponent`.
* `Binary64.ofRatio?` — the nearest such number to a ratio, a tie going to the even mantissa; there
  is none beyond the largest one.
* `Binary64.scale?` — a whole number times a power of ten, rounded after each step.
* `Binary64.shortest` — the fewest decimal digits that read back as the number.
* `Binary64.text` — these digits, written positionally or in scientific notation.
-/

/-- The number `mantissa · 2 ^ exponent`. -/
structure Binary64 where
  mantissa : Nat
  exponent : Int
  deriving DecidableEq, Repr

namespace Binary64

/-- Zero. -/
def zero : Binary64 := ⟨0, 0⟩

/-- `num / den` rounded to a whole number, a half going to the even neighbour. -/
def roundHalfEven (num den : Nat) : Nat :=
  let q := num / den
  let r := num % den
  if 2 * r < den then q
  else if den < 2 * r then q + 1
  else q + q % 2

/-- The power of two with exponent `k`. -/
def twoTo (k : Nat) : Nat := Nat.pow 2 k

/-- The power of ten with exponent `k`. -/
def tenTo (k : Nat) : Nat := Nat.pow 10 k

/-- The numerator and the denominator of `num / den · 2 ^ e`. -/
def shifted (num den : Nat) (e : Int) : Nat × Nat :=
  if 0 ≤ e then (num * twoTo e.toNat, den) else (num, den * twoTo (-e).toNat)

/-! ### Rounding -/

/-- The largest and the smallest exponent of a number with a whole mantissa. -/
def maxExponent : Int := 971
@[inherit_doc maxExponent] def minExponent : Int := -1074

/-- The exponent that gives `num / den` a mantissa of 53 bits, or fewer for the smallest numbers. -/
def exponentFor (num den : Nat) : Int :=
  let guess : Int := (num.log2 : Int) - den.log2 - 52
  let (n, d) := shifted num den (-guess)
  max minExponent (if n < twoTo 52 * d then guess - 1 else guess)

/-- The nearest number to `num / den`; `none` beyond the largest number. -/
def ofRatio? (num den : Nat) : Option Binary64 :=
  if num = 0 then some zero
  else
    let e := exponentFor num den
    let (n, d) := shifted num den (-e)
    let m := roundHalfEven n d
    let (m, e) := if m = twoTo 53 then (twoTo 52, e + 1) else (m, e)
    if maxExponent < e then none else some ⟨m, e⟩

/-- The nearest number to `10 ^ k`, for `k` up to 308. -/
def powerOfTen (k : Nat) : Binary64 := (ofRatio? (tenTo k) 1).getD zero

/-- The product, rounded. -/
def mul? (x y : Binary64) : Option Binary64 :=
  let (n, d) := shifted (x.mantissa * y.mantissa) 1 (x.exponent + y.exponent)
  ofRatio? n d

/-- The quotient, rounded. -/
def div? (x y : Binary64) : Option Binary64 :=
  let (n, d) := shifted x.mantissa y.mantissa (x.exponent - y.exponent)
  ofRatio? n d

/-- The number divided by `10 ^ k`, at most 308 places at a time. -/
def divPowerOfTen (x : Binary64) (k : Nat) : Binary64 :=
  if k ≤ 308 then (x.div? (powerOfTen k)).getD zero
  else if x.mantissa = 0 then zero
  else divPowerOfTen ((x.div? (powerOfTen 308)).getD zero) (k - 308)
termination_by k

/-- `significand · 10 ^ e`, rounded when the significand is taken and again when it is scaled;
    `none` beyond the largest number. -/
def scale? (significand : Nat) (e : Int) : Option Binary64 := do
  let x ← ofRatio? significand 1
  if e < 0 then return x.divPowerOfTen (-e).toNat
  else if e ≤ 308 then x.mul? (powerOfTen e.toNat)
  else if significand = 0 then return zero
  else none

/-! ### Shortest decimal form -/

/-- The largest `k` with `10 ^ k ≤ num / den`, found by trying `k` downwards. -/
def decimalExponentFrom (num den : Nat) : Nat → Int → Int
  | 0, k => k
  | fuel + 1, k =>
    let le : Bool :=
      if 0 ≤ k then tenTo k.toNat * den ≤ num else den ≤ num * tenTo (-k).toNat
    if le then k else decimalExponentFrom num den fuel (k - 1)

/-- Digits and a power of ten: the number `digits · 10 ^ power`. -/
structure Decimal where
  digits : Nat
  power : Int
  deriving DecidableEq, Repr

/-- A closed or open interval of ratios over one denominator, around a middle point. -/
structure Window where
  low : Nat
  middle : Nat
  high : Nat
  den : Nat
  closed : Bool

/-- The ratios that round to a number, which is the middle. -/
def window (x : Binary64) : Window :=
  let below := if x.mantissa = twoTo 52 ∧ minExponent < x.exponent then 1 else 2
  let (n, d) := shifted 1 1 (x.exponent - 2)
  { low := (4 * x.mantissa - below) * n
    middle := 4 * x.mantissa * n
    high := (4 * x.mantissa + 2) * n
    den := d
    closed := x.mantissa % 2 == 0 }

/-- The multiple of `10 ^ power` nearest to the middle of the window, if it lies inside. -/
def Window.pick? (w : Window) (power : Int) : Option Decimal :=
  -- all points of the window over `step`, the length of one place
  let (unit, step) :=
    if 0 ≤ power then (1, w.den * tenTo power.toNat) else (tenTo (-power).toNat, w.den)
  let inside (c : Nat) : Bool :=
    if w.closed then w.low * unit ≤ c * step && c * step ≤ w.high * unit
    else w.low * unit < c * step && c * step < w.high * unit
  let floor := w.middle * unit / step
  let rest := w.middle * unit % step
  let nearer := roundHalfEven (w.middle * unit) step
  if inside nearer then some ⟨nearer, power⟩
  else
    let other := if nearer = floor ∧ rest ≠ 0 then floor + 1 else floor
    if inside other then some ⟨other, power⟩ else none

/-- The first power, going down from `power`, of which some multiple lies in the window. -/
def Window.firstPick (w : Window) : Nat → Int → Decimal
  | 0, power => ⟨0, power⟩
  | fuel + 1, power =>
    match w.pick? power with
    | some d => d
    | none => w.firstPick fuel (power - 1)

/-- The decimal with the fewest digits that rounds to the number, and of those the nearest. -/
def shortest (x : Binary64) : Decimal :=
  if x.mantissa = 0 then ⟨0, 0⟩
  else
    let w := x.window
    w.firstPick 18 (decimalExponentFrom w.middle w.den 640 309)

/-! ### Text -/

/-- Digits without the zeros at their end, and the power that makes up for them. -/
def Decimal.strip (d : Decimal) : Decimal :=
  go d.digits d.power 20
where
  /-- Drops one zero after another. -/
  go (digits : Nat) (power : Int) : Nat → Decimal
    | 0 => ⟨digits, power⟩
    | fuel + 1 =>
      if digits % 10 = 0 ∧ digits ≠ 0 then go (digits / 10) (power + 1) fuel else ⟨digits, power⟩

/-- The number in decimal: positional from `0.00001` up to `10 ^ 16`, with at least one place after
    the point, and in scientific notation elsewhere. -/
def text (x : Binary64) : String :=
  let d := x.shortest.strip
  let digits := Nat.toDigits 10 d.digits
  let e : Int := d.power + digits.length - 1
  if d.digits = 0 then "0.0"
  else if -5 ≤ e ∧ e < 0 then
    "0." ++ String.ofList (List.replicate (-e - 1).toNat '0' ++ digits)
  else if 0 ≤ e ∧ e ≤ 15 then
    let whole := e.toNat + 1
    let (before, after) := (digits ++ List.replicate (whole - digits.length) '0').splitAt whole
    String.ofList before ++ "." ++ (if after.isEmpty then "0" else String.ofList after)
  else
    let (before, after) := digits.splitAt 1
    String.ofList before ++ (if after.isEmpty then "" else "." ++ String.ofList after)
      ++ "e" ++ (if e < 0 then "-" else "+") ++ toString e.natAbs

end Binary64

end MarketFeed
