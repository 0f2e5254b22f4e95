/-
# ArtifactStaging.Proofs.Number.ShortestDecimal -- the shortest decimal of a double

Every double other than zero has one standard form, and around it lie the numbers
that round to it: half a step on either side, or a quarter below a power of two.
The bounds themselves belong to the double with the even significand, so the ranges
of two doubles never meet.

The shortest decimal is found among the neighbours of the double on the grids of one
to seventeen digits.  On the last grid the nearest point is no further than half the
sixteenth decimal place of the double, which is less than the room around it, so the
search ends with a decimal that rounds to the double it was made from.
-/
import ArtifactStaging.Number.Binary64
import Mathlib.Algebra.Order.Field.Power
import Mathlib.Algebra.Order.Ring.Rat
import Mathlib.Algebra.Field.Rat
import Mathlib.Tactic.FieldSimp
import Mathlib.Tactic.Linarith
import Mathlib.Tactic.NormNum
import Mathlib.Tactic.Positivity
import Mathlib.Tactic.Ring

set_option autoImplicit false

namespace ArtifactStaging.Binary64

variable {x y : Binary64} {q : ℚ} {num den n d : Nat} {e : Int}

/-! ## Fractions -/

theorem zpow_of_neg {base : Nat} (h : e < 0) :
    (base : ℚ) ^ e = 1 / (power base e.natAbs : ℚ) := by
  obtain ⟨k, hk⟩ : ∃ k : Nat, e = -(k : Int) := ⟨e.natAbs, by omega⟩
  subst hk
  rw [Int.natAbs_neg, Int.natAbs_natCast, zpow_neg, zpow_natCast, one_div]
  simp [power]

theorem zpow_of_nonneg {base : Nat} (h : ¬ e < 0) :
    (base : ℚ) ^ e = (power base e.natAbs : ℚ) := by
  obtain ⟨k, hk⟩ : ∃ k : Nat, e = (k : Int) := ⟨e.natAbs, by omega⟩
  subst hk
  rw [Int.natAbs_natCast, zpow_natCast]
  simp [power]

/-- A fraction over a power of its base, as both scalings write it. -/
theorem scaled_div {base : Nat} (hbase : 0 < base) (hden : 0 < den) :
    let scaled := if e < 0 then (num * power base e.natAbs, den)
      else (num, den * power base e.natAbs)
    0 < scaled.2 ∧ (scaled.1 : ℚ) / scaled.2 = num / den / (base : ℚ) ^ e := by
  have hpower := power_pos hbase e.natAbs
  have hden' : (den : ℚ) ≠ 0 := by positivity
  have hpower' : (power base e.natAbs : ℚ) ≠ 0 := by positivity
  dsimp only
  split
  · next h =>
    refine ⟨hden, ?_⟩
    rw [zpow_of_neg h]
    push_cast
    field_simp
  · next h =>
    refine ⟨Nat.mul_pos hden hpower, ?_⟩
    rw [zpow_of_nonneg h]
    push_cast
    field_simp

theorem scaleTen_div (num : Nat) (e : Int) (hden : 0 < den) :
    0 < (scaleTen num den e).2 ∧
      ((scaleTen num den e).1 : ℚ) / (scaleTen num den e).2 = num / den / 10 ^ e :=
  scaled_div (by decide) hden

theorem scaleDown_div (num : Nat) (e : Int) (hden : 0 < den) :
    0 < (scaleDown num den e).2 ∧
      ((scaleDown num den e).1 : ℚ) / (scaleDown num den e).2 = num / den / 2 ^ e :=
  scaled_div (by decide) hden

/-- Rounding moves a fraction by half at most. -/
theorem roundDiv_near (n : Nat) (hd : 0 < d) : |(roundDiv n d : ℚ) - n / d| ≤ 1 / 2 := by
  have hdiv : (n : ℚ) = d * (n / d : Nat) + (n % d : Nat) := by
    exact_mod_cast (Nat.div_add_mod n d).symm
  have hd' : (0 : ℚ) < d := by exact_mod_cast hd
  have hfraction : (n : ℚ) / d = (n / d : Nat) + (n % d : Nat) / d := by
    rw [hdiv]
    field_simp
  rw [hfraction]
  have hmod : (n % d : Nat) / (d : ℚ) * d = (n % d : Nat) := by field_simp
  generalize ((n % d : Nat) : ℚ) / d = part at hmod
  have below (h : 2 * (n % d) ≤ d) : part ≤ 1 / 2 := by
    have : (2 * (n % d : Nat) : ℚ) ≤ d := by exact_mod_cast h
    nlinarith
  have above (h : d ≤ 2 * (n % d)) : 1 / 2 ≤ part := by
    have : (d : ℚ) ≤ 2 * (n % d : Nat) := by exact_mod_cast h
    nlinarith
  have least : 0 ≤ part := by
    have : (0 : ℚ) ≤ (n % d : Nat) := by positivity
    nlinarith
  have most : part ≤ 1 := by
    have : ((n % d : Nat) : ℚ) ≤ d := by exact_mod_cast (Nat.mod_lt n hd).le
    nlinarith
  rw [abs_le]
  unfold roundDiv
  dsimp only
  split_ifs with h₁ h₂ h₃
  all_goals push_cast
  · have := below h₁.le
    constructor <;> linarith
  · have := above h₂.le
    constructor <;> linarith
  · have := below (by omega)
    constructor <;> linarith
  · have := above (by omega)
    constructor <;> linarith

/-- A whole number is not moved. -/
theorem roundDiv_eq (hd : 0 < d) (h : n % d = 0) : roundDiv n d = n / d := by
  simp [roundDiv, h, hd]

/-! ## The numbers that round to a double -/

/-- What `digits * 10 ^ exponent` stands for. -/
def decimalValue (digits : Nat) (exponent : Int) : ℚ := digits * 10 ^ exponent

/-- The size of a double, its sign aside. -/
def magnitude (x : Binary64) : ℚ := x.significand * 2 ^ x.exponent

/-- A double other than zero in its one form: the significand has 53 bits, fewer only at the
least exponent. -/
structure Standard (x : Binary64) : Prop where
  nonzero : 0 < x.significand
  bounded : x.significand < 2 ^ 53
  least : -1074 ≤ x.exponent
  full : -1074 < x.exponent → 2 ^ 52 ≤ x.significand

/-- How much of a step below the double still rounds to it. -/
def roomBelow (x : Binary64) : ℚ :=
  if x.significand = 2 ^ 52 ∧ -1074 < x.exponent then 1 / 4 else 1 / 2

/-- The number rounds to the double: it is no further than half a step away, and closer than
that if the significand is odd. -/
structure RoundsTo (q : ℚ) (x : Binary64) : Prop where
  lower : (x.significand - x.roomBelow) * 2 ^ x.exponent ≤ q
  upper : q ≤ (x.significand + 1 / 2) * 2 ^ x.exponent
  lower_odd : x.significand % 2 ≠ 0 → (x.significand - x.roomBelow) * 2 ^ x.exponent < q
  upper_odd : x.significand % 2 ≠ 0 → q < (x.significand + 1 / 2) * 2 ^ x.exponent

theorem step_pos (x : Binary64) : (0 : ℚ) < 2 ^ x.exponent := by positivity

theorem roomBelow_le (x : Binary64) : x.roomBelow ≤ 1 / 2 := by
  unfold roomBelow
  split_ifs <;> norm_num

theorem Standard.one_le (h : x.Standard) : (1 : ℚ) ≤ x.significand := by
  exact_mod_cast h.nonzero

theorem Standard.magnitude_pos (h : x.Standard) : 0 < x.magnitude :=
  mul_pos (by linarith [h.one_le]) x.step_pos

theorem RoundsTo.pos (h : x.Standard) (rounds : RoundsTo q x) : 0 < q := by
  have hroom : 0 < (x.significand : ℚ) - x.roomBelow := by
    linarith [h.one_le, x.roomBelow_le]
  exact lt_of_lt_of_le (mul_pos hroom x.step_pos) rounds.lower

theorem RoundsTo.le_twice (h : x.Standard) (rounds : RoundsTo q x) : q ≤ 2 * x.magnitude := by
  have hupper := rounds.upper
  have hone := mul_le_mul_of_nonneg_right h.one_le x.step_pos.le
  have hpos := x.step_pos
  rw [magnitude]
  linarith

/-- Above a larger step, the range of a double starts no earlier than the ranges below it end. -/
theorem Standard.range_le (hx : x.Standard) (hy : y.Standard) (h : x.exponent < y.exponent) :
    (2 ^ 53 - 1 / 2) * (2 : ℚ) ^ x.exponent ≤
      (y.significand - y.roomBelow) * 2 ^ y.exponent := by
  have hlarge : -1074 < y.exponent := lt_of_le_of_lt hx.least h
  have hfull := hy.full hlarge
  have hdouble : (2 : ℚ) * 2 ^ x.exponent ≤ 2 ^ y.exponent := by
    calc (2 : ℚ) * 2 ^ x.exponent = 2 ^ (x.exponent + 1) := by
          rw [zpow_add_one₀ (by norm_num), mul_comm]
      _ ≤ 2 ^ y.exponent := zpow_le_zpow_right₀ (by norm_num) (by omega)
  have hstart : (2 ^ 52 - 1 / 4 : ℚ) ≤ y.significand - y.roomBelow := by
    by_cases hnarrow : y.significand = 2 ^ 52
    · rw [roomBelow, if_pos ⟨hnarrow, hlarge⟩, hnarrow]
      norm_num
    · have hnext : (2 ^ 52 + 1 : ℚ) ≤ y.significand := by
        exact_mod_cast show 2 ^ 52 + 1 ≤ y.significand by omega
      linarith [y.roomBelow_le]
  calc (2 ^ 53 - 1 / 2) * (2 : ℚ) ^ x.exponent
      = (2 ^ 52 - 1 / 4) * (2 * 2 ^ x.exponent) := by ring
    _ ≤ (2 ^ 52 - 1 / 4) * 2 ^ y.exponent :=
        mul_le_mul_of_nonneg_left hdouble (by norm_num)
    _ ≤ (y.significand - y.roomBelow) * 2 ^ y.exponent :=
        mul_le_mul_of_nonneg_right hstart y.step_pos.le

theorem RoundsTo.not_of_exponent_lt (hx : x.Standard) (hy : y.Standard) (rounds : RoundsTo q x)
    (h : x.exponent < y.exponent) : ¬ RoundsTo q y := by
  intro other
  have hstart := (hx.range_le hy h).trans other.lower
  by_cases hlast : x.significand = 2 ^ 53 - 1
  · -- The last significand is odd, so its upper bound is not its own.
    have hupper := rounds.upper_odd (by omega)
    have hlast' : (x.significand : ℚ) = 2 ^ 53 - 1 := by
      rw [hlast]
      norm_num
    rw [hlast'] at hupper
    linarith
  · have hbounded : (x.significand : ℚ) + 2 ≤ 2 ^ 53 := by
      have := hx.bounded
      exact_mod_cast show x.significand + 2 ≤ 2 ^ 53 by omega
    have hupper := rounds.upper
    have hstep := x.step_pos
    nlinarith

theorem RoundsTo.not_of_significand_lt (rounds : RoundsTo q x)
    (hexponent : x.exponent = y.exponent) (h : x.significand < y.significand) :
    ¬ RoundsTo q y := by
  intro other
  have hstep := x.step_pos
  have hlower := other.lower
  have hroom := y.roomBelow_le
  rw [← hexponent] at hlower
  have hnext : (x.significand : ℚ) + 1 ≤ y.significand := by exact_mod_cast h
  by_cases hodd : x.significand % 2 ≠ 0
  · have hupper := rounds.upper_odd hodd
    nlinarith
  · by_cases hfar : y.significand = x.significand + 1
    · -- The even one has the bound between two neighbours.
      have hlower' := other.lower_odd (by omega)
      rw [← hexponent] at hlower'
      have hupper := rounds.upper
      nlinarith
    · have hfar' : (x.significand : ℚ) + 2 ≤ y.significand := by
        exact_mod_cast show x.significand + 2 ≤ y.significand by omega
      have hupper := rounds.upper
      nlinarith

/-- **A number rounds to one double.** -/
theorem RoundsTo.unique (hx : x.Standard) (hy : y.Standard) (toX : RoundsTo q x)
    (toY : RoundsTo q y) : x.significand = y.significand ∧ x.exponent = y.exponent := by
  rcases lt_trichotomy x.exponent y.exponent with h | hexponent | h
  · exact absurd toY (toX.not_of_exponent_lt hx hy h)
  · rcases lt_trichotomy x.significand y.significand with h | h | h
    · exact absurd toY (toX.not_of_significand_lt hexponent h)
    · exact ⟨h, hexponent⟩
    · exact absurd toX (toY.not_of_significand_lt hexponent.symm h)
  · exact absurd toX (toY.not_of_exponent_lt hy hx h)

/-- What is closer than a part in twice ten to the sixteenth rounds to the double. -/
theorem roundsTo_of_near (h : x.Standard) (hnear : |q - x.magnitude| ≤ x.magnitude / 10 ^ 16 / 2) :
    RoundsTo q x := by
  have hstep := x.step_pos
  have hbounded : (x.significand : ℚ) ≤ 2 ^ 53 := by exact_mod_cast h.bounded.le
  have hwhole : (x.significand : ℚ) / 10 ^ 16 / 2 < 1 / 2 := by linarith
  have hbelow : (x.significand : ℚ) / 10 ^ 16 / 2 < x.roomBelow := by
    unfold roomBelow
    split_ifs with hnarrow
    · rw [hnarrow.1]
      norm_num
    · exact hwhole
  obtain ⟨hlower, hupper⟩ := abs_le.1 hnear
  have hscale : x.magnitude / 10 ^ 16 / 2 =
      (x.significand : ℚ) / 10 ^ 16 / 2 * 2 ^ x.exponent := by
    rw [magnitude]
    ring
  rw [hscale] at hlower hupper
  have hlow := mul_lt_mul_of_pos_right hbelow hstep
  have hhigh := mul_lt_mul_of_pos_right hwhole hstep
  have above : (x.significand - x.roomBelow) * (2 : ℚ) ^ x.exponent < q := by
    rw [magnitude] at hlower
    linarith
  have below : q < (x.significand + 1 / 2) * (2 : ℚ) ^ x.exponent := by
    rw [magnitude] at hupper
    linarith
  exact ⟨above.le, below.le, fun _ => above, fun _ => below⟩

theorem roundsTo_magnitude (h : x.Standard) : RoundsTo x.magnitude x := by
  apply roundsTo_of_near h
  have := h.magnitude_pos
  rw [sub_self, abs_zero]
  positivity

/-! ## The bounds as the search has them -/

/-- The bounds count quarters of a step. -/
theorem quarter_step (e : Int) :
    let (scale, den) := if e < 0 then (1, 4 * power 2 e.natAbs) else (power 2 e.natAbs, 4)
    0 < den ∧ (scale : ℚ) / den = 2 ^ e / 4 := by
  have hpower : 0 < power 2 e.natAbs := power_pos (by decide) _
  have hpower' : (power 2 e.natAbs : ℚ) ≠ 0 := by positivity
  by_cases hneg : e < 0
  · rw [if_pos hneg]
    have hzpow : (2 : ℚ) ^ e = 1 / power 2 e.natAbs := zpow_of_neg hneg
    refine ⟨by omega, ?_⟩
    rw [hzpow]
    push_cast
    field_simp
  · rw [if_neg hneg]
    have hzpow : (2 : ℚ) ^ e = power 2 e.natAbs := zpow_of_nonneg hneg
    refine ⟨by decide, ?_⟩
    rw [hzpow]
    norm_num

/-- The bounds over their denominator are those of the numbers that round to the double. -/
theorem rounding_bounds (h : x.Standard) :
    0 < x.rounding.den ∧ (x.rounding.value : ℚ) / x.rounding.den = x.magnitude ∧
      (x.rounding.lower : ℚ) / x.rounding.den =
        (x.significand - x.roomBelow) * 2 ^ x.exponent ∧
      (x.rounding.upper : ℚ) / x.rounding.den = (x.significand + 1 / 2) * 2 ^ x.exponent ∧
      x.rounding.closed = decide (x.significand % 2 = 0) := by
  have hlower : ((4 * x.significand -
      if x.significand = power 2 52 ∧ -1074 < x.exponent then 1 else 2 : Nat) : ℚ) =
        4 * (x.significand - x.roomBelow) := by
    have hpositive := h.nonzero
    unfold roomBelow
    rw [show power 2 52 = 2 ^ 52 from rfl]
    split_ifs
    · rw [Nat.cast_sub (by omega)]
      push_cast
      ring
    · rw [Nat.cast_sub (by omega)]
      push_cast
      ring
  unfold rounding magnitude
  have hstep := quarter_step x.exponent
  generalize (if x.exponent < 0 then (1, 4 * power 2 x.exponent.natAbs)
    else (power 2 x.exponent.natAbs, 4)) = fraction at hstep ⊢
  obtain ⟨scale, den⟩ := fraction
  obtain ⟨hden, hstep⟩ := hstep
  refine ⟨hden, ?_, ?_, ?_, rfl⟩
  · rw [Nat.cast_mul, mul_div_assoc, hstep]
    push_cast
    ring
  · rw [Nat.cast_mul, mul_div_assoc, hstep, hlower]
    ring
  · rw [Nat.cast_mul, mul_div_assoc, hstep]
    push_cast
    ring

theorem value_pos (h : x.Standard) : 0 < x.rounding.value := by
  obtain ⟨-, hvalue, -⟩ := rounding_bounds h
  have hmagnitude := h.magnitude_pos
  rw [← hvalue] at hmagnitude
  by_contra hzero
  rw [Nat.eq_zero_of_not_pos hzero] at hmagnitude
  simp at hmagnitude

/-- A decimal as a fraction. -/
theorem decimalValue_eq (digits : Nat) (e : Int) :
    let (scaled, den) :=
      if e < 0 then (digits, power 10 e.natAbs) else (digits * power 10 e.natAbs, 1)
    0 < den ∧ decimalValue digits e = (scaled : ℚ) / den := by
  have hpower : 0 < power 10 e.natAbs := power_pos (by decide) _
  by_cases hneg : e < 0
  · rw [if_pos hneg]
    have hzpow : (10 : ℚ) ^ e = 1 / power 10 e.natAbs := zpow_of_neg hneg
    refine ⟨hpower, ?_⟩
    rw [decimalValue, hzpow, mul_one_div]
  · rw [if_neg hneg]
    have hzpow : (10 : ℚ) ^ e = power 10 e.natAbs := zpow_of_nonneg hneg
    refine ⟨by decide, ?_⟩
    rw [decimalValue, hzpow]
    push_cast
    ring

theorem div_le_div_iff_cross {a b c d : Nat} (hb : 0 < b) (hd : 0 < d) :
    (a : ℚ) / b ≤ c / d ↔ a * d ≤ c * b := by
  rw [div_le_div_iff₀ (by exact_mod_cast hb) (by exact_mod_cast hd)]
  exact_mod_cast Iff.rfl

theorem div_lt_div_iff_cross {a b c d : Nat} (hb : 0 < b) (hd : 0 < d) :
    (a : ℚ) / b < c / d ↔ a * d < c * b := by
  rw [div_lt_div_iff₀ (by exact_mod_cast hb) (by exact_mod_cast hd)]
  exact_mod_cast Iff.rfl

/-- The search asks of a decimal that it round to the double. -/
theorem holds_iff (h : x.Standard) {digits : Nat} :
    x.rounding.holds digits e = true ↔ RoundsTo (decimalValue digits e) x := by
  obtain ⟨hden, -, hlower, hupper, hclosed⟩ := rounding_bounds h
  unfold Rounding.holds
  have hvalue := decimalValue_eq digits e
  generalize (if e < 0 then (digits, power 10 e.natAbs)
    else (digits * power 10 e.natAbs, 1)) = fraction at hvalue ⊢
  obtain ⟨scaled, tens⟩ := fraction
  obtain ⟨htens, hvalue⟩ := hvalue
  dsimp only
  rw [hclosed]
  by_cases heven : x.significand % 2 = 0
  · simp only [heven, decide_true, if_true, Bool.and_eq_true, decide_eq_true_eq,
      ← div_le_div_iff_cross hden htens, ← div_le_div_iff_cross htens hden, hlower, hupper,
      ← hvalue]
    exact ⟨fun ⟨low, high⟩ => ⟨low, high, absurd heven, absurd heven⟩,
      fun rounds => ⟨rounds.lower, rounds.upper⟩⟩
  · simp only [heven, decide_false, Bool.false_eq_true, if_false, Bool.and_eq_true,
      decide_eq_true_eq, ← div_lt_div_iff_cross hden htens, ← div_lt_div_iff_cross htens hden,
      hlower, hupper, ← hvalue]
    exact ⟨fun ⟨low, high⟩ => ⟨low.le, high.le, fun _ => low, fun _ => high⟩,
      fun rounds => ⟨rounds.lower_odd heven, rounds.upper_odd heven⟩⟩

/-! ## The search -/

/-- What is found on a grid rounds to the double. -/
theorem roundsTo_of_onGrid? (h : x.Standard) {digits : Nat}
    (found : x.rounding.onGrid? e = some digits) : RoundsTo (decimalValue digits e) x := by
  rw [← holds_iff h]
  unfold Rounding.onGrid? at found
  dsimp only at found
  generalize (if roundDiv _ _ = _ then _ else _) = other at found
  split at found
  · next holds => rwa [Option.some.inj found] at holds
  · split at found
    · next holds => rwa [Option.some.inj found] at holds
    · cases found

/-- A grid whose point next to the double rounds to it has a point that does. -/
theorem isSome_onGrid? (h : x.Standard)
    (near : ∀ digits : Nat, |decimalValue digits e - x.magnitude| ≤ 10 ^ e / 2 →
      RoundsTo (decimalValue digits e) x) : (x.rounding.onGrid? e).isSome := by
  obtain ⟨hden, hvalue, -⟩ := rounding_bounds h
  obtain ⟨hscaled, hratio⟩ := scaleTen_div x.rounding.value e hden
  rw [hvalue] at hratio
  unfold Rounding.onGrid?
  dsimp only
  rw [if_pos]
  · rfl
  rw [holds_iff h]
  apply near
  have hstep : (0 : ℚ) < 10 ^ e := by positivity
  have hnear := roundDiv_near (scaleTen x.rounding.value x.rounding.den e).1 hscaled
  rw [hratio] at hnear
  generalize roundDiv _ _ = digits at hnear ⊢
  have hmove : decimalValue digits e - x.magnitude =
      ((digits : ℚ) - x.magnitude / 10 ^ e) * 10 ^ e := by
    rw [decimalValue]
    field_simp
  rw [hmove, abs_mul, abs_of_pos hstep]
  calc |(digits : ℚ) - x.magnitude / 10 ^ e| * 10 ^ e ≤ 1 / 2 * 10 ^ e :=
        mul_le_mul_of_nonneg_right hnear hstep.le
    _ = 10 ^ e / 2 := by ring

theorem length_toDigits_bounds (hnum : 0 < num) :
    (10 : ℚ) ^ (((Nat.toDigits 10 num).length : Int) - 1) ≤ num ∧
      (num : ℚ) < 10 ^ ((Nat.toDigits 10 num).length : Int) := by
  have hlength : 0 < (Nat.toDigits 10 num).length := Nat.length_toDigits_pos
  constructor
  · obtain ⟨k, hk⟩ := Nat.exists_eq_succ_of_ne_zero hlength.ne'
    rw [hk, Nat.cast_succ, add_sub_cancel_right, zpow_natCast]
    cases k with
    | zero => exact_mod_cast hnum
    | succ k =>
        have hlarge : ¬ num < 10 ^ (k + 1) := by
          rw [← Nat.length_toDigits_le_iff (by decide) (by omega)]
          omega
        exact_mod_cast not_lt.1 hlarge
  · rw [zpow_natCast]
    exact_mod_cast (Nat.length_toDigits_le_iff (by decide) hlength).1 le_rfl

/-- The first digit of a fraction stands where its count of digits says. -/
theorem digitsBeforePoint_bounds (hnum : 0 < num) (hden : 0 < den) :
    (10 : ℚ) ^ (digitsBeforePoint num den - 1) ≤ num / den ∧
      (num : ℚ) / den < 10 ^ digitsBeforePoint num den := by
  obtain ⟨hnumLow, hnumHigh⟩ := length_toDigits_bounds hnum
  obtain ⟨hdenLow, hdenHigh⟩ := length_toDigits_bounds hden
  unfold digitsBeforePoint
  dsimp only
  generalize ((Nat.toDigits 10 num).length : Int) = a at *
  generalize ((Nat.toDigits 10 den).length : Int) = b at *
  obtain ⟨hscaled, hratio⟩ := scaleTen_div num (a - b) hden
  have hscaled' : (0 : ℚ) < (scaleTen num den (a - b)).2 := by exact_mod_cast hscaled
  have hden' : (0 : ℚ) < den := by exact_mod_cast hden
  have hstep : (0 : ℚ) < 10 ^ (a - b) := by positivity
  have hlt : (scaleTen num den (a - b)).1 < (scaleTen num den (a - b)).2 ↔
      (num : ℚ) / den < 10 ^ (a - b) := by
    rw [← div_lt_one hstep, ← hratio, div_lt_one hscaled']
    exact_mod_cast Iff.rfl
  split_ifs with hbelow
  · refine ⟨?_, hlt.1 hbelow⟩
    rw [le_div_iff₀ hden']
    calc (10 : ℚ) ^ (a - b - 1) * den ≤ 10 ^ (a - b - 1) * 10 ^ b :=
          mul_le_mul_of_nonneg_left hdenHigh.le (by positivity)
      _ = 10 ^ (a - 1) := by
          rw [← zpow_add₀ (by norm_num)]
          congr 1
          ring
      _ ≤ num := hnumLow
  · refine ⟨?_, ?_⟩
    · rw [add_sub_cancel_right]
      exact not_lt.1 fun h => hbelow (hlt.2 h)
    · rw [div_lt_iff₀ hden']
      calc (num : ℚ) < 10 ^ a := hnumHigh
        _ = 10 ^ (a - b + 1) * 10 ^ (b - 1) := by
            rw [← zpow_add₀ (by norm_num)]
            congr 1
            ring
        _ ≤ 10 ^ (a - b + 1) * den := mul_le_mul_of_nonneg_left hdenLow (by positivity)

/-- Seventeen digits are enough for every double. -/
theorem isSome_onGrid?_seventeen (h : x.Standard) :
    (x.rounding.onGrid? (digitsBeforePoint x.rounding.value x.rounding.den - 17)).isSome := by
  obtain ⟨hden, hvalue, -⟩ := rounding_bounds h
  obtain ⟨hlow, -⟩ := digitsBeforePoint_bounds (value_pos h) hden
  rw [hvalue] at hlow
  apply isSome_onGrid? h
  intro digits hnear
  apply roundsTo_of_near h
  refine hnear.trans ?_
  generalize digitsBeforePoint x.rounding.value x.rounding.den = before at hlow ⊢
  have hgrid : (10 : ℚ) ^ (before - 17) = 10 ^ (before - 1) / 10 ^ 16 := by
    rw [eq_div_iff (by norm_num), ← zpow_natCast, ← zpow_add₀ (by norm_num)]
    congr 1
    push_cast
    ring
  rw [hgrid]
  linarith

/-- The search stops at the first grid with a decimal that rounds to the double. -/
theorem shortestFrom_found {r : Rounding} {before : Int} (steps count : Nat) {last : Nat}
    (first : count ≤ last) (bound : last ≤ count + steps)
    (found : (r.onGrid? (before - last)).isSome) :
    ∃ digits stop, shortestFrom r before steps count = (digits, before - (stop : Nat)) ∧
      stop ≤ last ∧ r.onGrid? (before - stop) = some digits := by
  obtain ⟨digits, hdigits⟩ := Option.isSome_iff_exists.1 found
  induction steps generalizing count with
  | zero =>
      obtain rfl : count = last := by omega
      exact ⟨digits, count, by simp [shortestFrom, hdigits], le_rfl, hdigits⟩
  | succ steps ih =>
      unfold shortestFrom
      split
      · next digits' hstop => exact ⟨digits', count, rfl, first, hstop⟩
      · next hnone =>
        have hlater : count ≠ last := by
          rintro rfl
          rw [hdigits] at hnone
          cases hnone
        exact ih (count + 1) (by omega) (by omega)

/-- Dropping zeros changes neither the number nor, downwards, its exponent. -/
theorem dropZeros_decimal (steps digits : Nat) (e : Int) :
    decimalValue (dropZeros steps (digits, e)).1 (dropZeros steps (digits, e)).2 =
      decimalValue digits e ∧ e ≤ (dropZeros steps (digits, e)).2 := by
  induction steps generalizing digits e with
  | zero => exact ⟨rfl, le_rfl⟩
  | succ steps ih =>
      unfold dropZeros
      split
      · next hzero =>
        obtain ⟨hsame, hraised⟩ := ih (digits / 10) (e + 1)
        refine ⟨hsame.trans ?_, by omega⟩
        have hdigits : (digits : ℚ) = 10 * (digits / 10 : Nat) := by
          exact_mod_cast show digits = 10 * (digits / 10) by omega
        rw [decimalValue, decimalValue, zpow_add_one₀ (by norm_num), hdigits]
        ring
      · exact ⟨rfl, le_rfl⟩

/-- The shortest decimal rounds to the double and is no finer than any grid of at most seventeen
digits on which there is such a decimal. -/
theorem shortest_of_found (h : x.Standard) {last : Nat} (first : 1 ≤ last) (bound : last ≤ 17)
    (found : (x.rounding.onGrid?
      (digitsBeforePoint x.rounding.value x.rounding.den - last)).isSome) :
    RoundsTo (decimalValue x.shortest.1 x.shortest.2) x ∧
      digitsBeforePoint x.rounding.value x.rounding.den - last ≤ x.shortest.2 := by
  obtain ⟨digits, stop, hsearch, hstop, found⟩ := shortestFrom_found 16 1 first bound found
  have hshortest : x.shortest = dropZeros 20 (shortestFrom x.rounding
      (digitsBeforePoint x.rounding.value x.rounding.den) 16 1) :=
    if_neg h.nonzero.ne'
  rw [hsearch] at hshortest
  obtain ⟨hsame, hraised⟩ := dropZeros_decimal 20 digits
    (digitsBeforePoint x.rounding.value x.rounding.den - stop)
  rw [hshortest, hsame]
  exact ⟨roundsTo_of_onGrid? h found, by omega⟩

/-- **The shortest decimal rounds to its double**, and so tells which double it is. -/
theorem roundsTo_shortest (h : x.Standard) :
    RoundsTo (decimalValue x.shortest.1 x.shortest.2) x :=
  (shortest_of_found h (by decide) le_rfl (isSome_onGrid?_seventeen h)).1

end ArtifactStaging.Binary64
