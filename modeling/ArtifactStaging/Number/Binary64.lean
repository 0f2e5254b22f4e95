/-
# ArtifactStaging.Number.Binary64 -- double precision by exact arithmetic

A finite double is a sign and `significand * 2 ^ exponent`.  Everything here is
exact arithmetic on natural numbers, so it evaluates in a proof as it does in a
run.

* `ofRatio?` is the double nearest to a fraction, a tie going to the even
  significand; none when that is beyond the largest double.
* `shortest` is the decimal with the fewest digits that reads back as the same
  double, and of those the nearest one.
* `NumeralStyle` says how such a decimal is laid out as text.
-/
import ArtifactStaging.Number.Power

set_option autoImplicit false

namespace ArtifactStaging

/-- A finite double: `significand * 2 ^ exponent`, negated when `negative`. -/
structure Binary64 where
  negative : Bool
  significand : Nat
  exponent : Int
deriving DecidableEq, Repr, Inhabited

namespace Binary64

/-- The zero of a sign. -/
def zero (negative : Bool) : Binary64 := ⟨negative, 0, -1074⟩

/-- `num / den` to the nearest whole number, a half going to the even one. -/
def roundDiv (num den : Nat) : Nat :=
  let quotient := num / den
  let twice := 2 * (num % den)
  if twice < den then quotient
  else if den < twice then quotient + 1
  else if quotient % 2 = 0 then quotient else quotient + 1

/-- `num / den` over `2 ^ exponent`, as a fraction. -/
def scaleDown (num den : Nat) (exponent : Int) : Nat × Nat :=
  if exponent < 0 then (num * power 2 exponent.natAbs, den)
  else (num, den * power 2 exponent.natAbs)

/-- The exponent for which `num / den` has a significand of 53 bits, or the
least exponent there is. -/
def exponentFor (num den : Nat) : Int :=
  let guess : Int := (num.log2 : Int) - den.log2 - 52
  let (n, d) := scaleDown num den guess
  let exponent := if n < d * power 2 52 then guess - 1 else guess
  max exponent (-1074)

/-- The double nearest to `num / den`. -/
def ofRatio? (negative : Bool) (num den : Nat) : Option Binary64 :=
  if num = 0 then some (zero negative)
  else
    let exponent := exponentFor num den
    let (n, d) := scaleDown num den exponent
    let rounded := roundDiv n d
    let (significand, exponent) :=
      if rounded = power 2 53 then (power 2 52, exponent + 1) else (rounded, exponent)
    if 971 < exponent then none else some ⟨negative, significand, exponent⟩

/-- The double nearest to `digits * 10 ^ exponent`. -/
def ofDecimal? (negative : Bool) (digits : Nat) (exponent : Int) : Option Binary64 :=
  if digits = 0 then some (zero negative)
  else
    let magnitude : Int := (Nat.toDigits 10 digits).length + exponent
    if 400 < magnitude then none
    else if magnitude < -400 then some (zero negative)
    else if exponent < 0 then ofRatio? negative digits (power 10 exponent.natAbs)
    else ofRatio? negative (digits * power 10 exponent.natAbs) 1

/-- The double nearest to a whole number; the largest finite double bounds it. -/
def ofInt (n : Int) : Binary64 :=
  (ofRatio? (decide (n < 0)) n.natAbs 1).getD ⟨decide (n < 0), power 2 53 - 1, 971⟩

/-! ## The shortest decimal -/

/-- `num / den` over `10 ^ exponent`, as a fraction. -/
def scaleTen (num den : Nat) (exponent : Int) : Nat × Nat :=
  if exponent < 0 then (num * power 10 exponent.natAbs, den)
  else (num, den * power 10 exponent.natAbs)

/-- The number of digits before the point of `num / den`; zero or less for a fraction
below one. -/
def digitsBeforePoint (num den : Nat) : Int :=
  let guess : Int := ((Nat.toDigits 10 num).length : Int) - (Nat.toDigits 10 den).length
  let (n, d) := scaleTen num den guess
  if n < d then guess else guess + 1

/-- The bounds of the reals that round to the double, over one denominator, and
whether the bounds themselves do. -/
structure Rounding where
  value : Nat
  lower : Nat
  upper : Nat
  den : Nat
  closed : Bool

/-- Half a step up, and half a step down, which is half as long at a power of two. -/
def rounding (x : Binary64) : Rounding :=
  let m := x.significand
  let narrow := m = power 2 52 ∧ -1074 < x.exponent
  let (scale, den) :=
    if x.exponent < 0 then (1, 4 * power 2 x.exponent.natAbs)
    else (power 2 x.exponent.natAbs, 4)
  { value := 4 * m * scale
    lower := (4 * m - if narrow then 1 else 2) * scale
    upper := (4 * m + 2) * scale
    den := den
    closed := m % 2 = 0 }

/-- Whether `candidate * 10 ^ exponent` rounds to the double. -/
def Rounding.holds (r : Rounding) (candidate : Nat) (exponent : Int) : Bool :=
  let (scaled, den) :=
    if exponent < 0 then (candidate, power 10 exponent.natAbs)
    else (candidate * power 10 exponent.natAbs, 1)
  let c := scaled * r.den
  if r.closed then r.lower * den ≤ c && c ≤ r.upper * den
  else r.lower * den < c && c < r.upper * den

/-- The neighbours of the value on the grid of `10 ^ exponent` that round to it,
the nearer one first; a tie goes to the even neighbour. -/
def Rounding.onGrid? (r : Rounding) (exponent : Int) : Option Nat :=
  let (n, d) := scaleTen r.value r.den exponent
  let below := n / d
  let above := below + 1
  let nearest := roundDiv n d
  let other := if nearest = below then above else below
  if r.holds nearest exponent then some nearest
  else if r.holds other exponent then some other
  else none

/-- Drop zeros at the end of the digits, raising the exponent for each. -/
def dropZeros : Nat → Nat × Int → Nat × Int
  | 0, decimal => decimal
  | steps + 1, (digits, exponent) =>
      if digits % 10 = 0 ∧ digits ≠ 0 then dropZeros steps (digits / 10, exponent + 1)
      else (digits, exponent)

/-- Try `count` digits, and one more as long as `steps` lasts. -/
def shortestFrom (r : Rounding) (before : Int) : (steps count : Nat) → Nat × Int
  | 0, count => ((r.onGrid? (before - count)).getD 0, before - count)
  | steps + 1, count =>
      match r.onGrid? (before - count) with
      | some digits => (digits, before - count)
      | none => shortestFrom r before steps (count + 1)

/-- The shortest decimal `digits * 10 ^ exponent` that reads back as the double
(its sign aside); seventeen digits always do. -/
def shortest (x : Binary64) : Nat × Int :=
  if x.significand = 0 then (0, 0)
  else
    let r := x.rounding
    dropZeros 20 (shortestFrom r (digitsBeforePoint r.value r.den) 16 1)

/-! ## Text -/

/-- How a decimal is laid out: positional between two bounds on the place of the
point, with an exponent beyond them that always has a sign. -/
structure NumeralStyle where
  /-- The most digits before the point. -/
  mostBefore : Nat
  /-- The most zeros after the point before the first digit. -/
  mostZeros : Nat
  /-- A whole number keeps `.0`. -/
  keepPoint : Bool
  /-- Negative zero keeps its sign. -/
  signedZero : Bool

/-- `count` zeros. -/
def zeros (count : Nat) : List Char := List.replicate count '0'

/-- A decimal without its sign, in a style. -/
def layout (style : NumeralStyle) (digits : List Char) (exponent : Int) : List Char :=
  let count : Int := digits.length
  let before := count + exponent
  if 0 < before ∧ before ≤ style.mostBefore then
    if 0 ≤ exponent then
      digits ++ zeros exponent.natAbs ++ (if style.keepPoint then ['.', '0'] else [])
    else digits.take before.natAbs ++ '.' :: digits.drop before.natAbs
  else if before ≤ 0 ∧ -before ≤ style.mostZeros then
    '0' :: '.' :: (zeros before.natAbs ++ digits)
  else
    let power := before - 1
    let mark := if power < 0 then ['e', '-'] else ['e', '+']
    let tail := mark ++ Nat.toDigits 10 power.natAbs
    match digits with
    | [] => tail
    | [digit] => digit :: tail
    | digit :: rest => digit :: '.' :: (rest ++ tail)

/-- The double as text, in a style. -/
def render (style : NumeralStyle) (x : Binary64) : String :=
  let sign := if x.negative ∧ (x.significand ≠ 0 ∨ style.signedZero) then ['-'] else []
  if x.significand = 0 then
    String.ofList (sign ++ '0' :: (if style.keepPoint then ['.', '0'] else []))
  else
    let (digits, exponent) := x.shortest
    String.ofList (sign ++ layout style (Nat.toDigits 10 digits) exponent)

/-- Positional up to sixteen digits before the point and four zeros after it. -/
def jsonStyle : NumeralStyle := ⟨16, 4, true, true⟩

/-- Positional up to twenty-one digits before the point and five zeros after it, with
no point in a whole number: the layout of canonical JSON. -/
def canonicalStyle : NumeralStyle := ⟨21, 5, false, false⟩

end Binary64

end ArtifactStaging
