/-
# ArtifactStaging.Proofs.Number.WholeNumbers -- whole numbers as doubles and as text

A whole number of at most sixty-four bits becomes a double of the size of a whole
number, its own size up to two to the fifty-third.  Canonical JSON writes such a
double as the digits of a whole number that rounds to it, so the text of a number
tells the double and, where no rounding took place, the number.
-/
import ArtifactStaging.Json.Canonical
import ArtifactStaging.Proofs.Number.ShortestDecimal
import ArtifactStaging.Proofs.Text.Digits

set_option autoImplicit false

namespace ArtifactStaging

namespace Binary64

variable {x y : Binary64} {size m n d : Nat} {e : Int}

/-- The double has the size of a whole number of about sixty-four bits. -/
structure Whole (x : Binary64) (size : Nat) : Prop where
  standard : x.Standard
  magnitude_eq : x.magnitude = size
  bounded : size ≤ 2 ^ 64

/-! ## Rounding whole numbers -/

/-- A whole number over the power of two that leaves it 53 bits before the point. -/
def aligned (m : Nat) : Nat × Nat := scaleDown m 1 ((m.log2 : Int) - 52)

/-- The significand that a whole number is rounded to. -/
def rounded (m : Nat) : Nat := roundDiv (aligned m).1 (aligned m).2

theorem aligned_div (m : Nat) :
    0 < (aligned m).2 ∧
      ((aligned m).1 : ℚ) / (aligned m).2 = m / 2 ^ ((m.log2 : Int) - 52) := by
  have hscaled := scaleDown_div m ((m.log2 : Int) - 52) Nat.one_pos
  rwa [Nat.cast_one, div_one] at hscaled

theorem scaleDown_eq_aligned (m : Nat) : scaleDown m 1 ((m.log2 : Int) - 52) = aligned m := rfl

theorem aligned_bounds (hm : 0 < m) :
    (2 : ℚ) ^ 52 ≤ (aligned m).1 / (aligned m).2 ∧
      ((aligned m).1 : ℚ) / (aligned m).2 < 2 ^ 53 := by
  have hstep : (0 : ℚ) < 2 ^ ((m.log2 : Int) - 52) := by positivity
  have hlow : (2 ^ m.log2 : ℚ) ≤ m := by exact_mod_cast Nat.log2_self_le hm.ne'
  have hhigh : (m : ℚ) < 2 ^ (m.log2 + 1) := by exact_mod_cast Nat.lt_log2_self
  have hfirst : (2 : ℚ) ^ 52 * 2 ^ ((m.log2 : Int) - 52) = 2 ^ m.log2 := by
    rw [← zpow_natCast, ← zpow_natCast, ← zpow_add₀ (by norm_num)]
    congr 1
    push_cast
    ring
  rw [(aligned_div m).2, le_div_iff₀ hstep, div_lt_iff₀ hstep, hfirst]
  refine ⟨hlow, ?_⟩
  calc (m : ℚ) < 2 ^ (m.log2 + 1) := hhigh
    _ = 2 ^ 53 * 2 ^ ((m.log2 : Int) - 52) := by
        rw [pow_succ, ← hfirst]
        ring

theorem exponentFor_eq (hm : 0 < m) : exponentFor m 1 = (m.log2 : Int) - 52 := by
  have hpositive : (0 : ℚ) < (aligned m).2 := by exact_mod_cast (aligned_div m).1
  have hlow := (aligned_bounds hm).1
  rw [le_div_iff₀ hpositive] at hlow
  have hfull : ¬ (aligned m).1 < (aligned m).2 * power 2 52 := by
    rw [not_lt, mul_comm, show power 2 52 = 2 ^ 52 from rfl]
    exact_mod_cast hlow
  have hone : Nat.log2 1 = 0 := by decide
  unfold exponentFor
  rw [hone, Nat.cast_zero, sub_zero]
  dsimp only
  rw [scaleDown_eq_aligned, if_neg hfull]
  omega

/-- What is rounded has as many bits as a significand, or one more after the last one. -/
theorem rounded_bounds (hm : 0 < m) : 2 ^ 52 ≤ rounded m ∧ rounded m ≤ 2 ^ 53 := by
  obtain ⟨hlow, hhigh⟩ := aligned_bounds hm
  obtain ⟨hbelow, habove⟩ := abs_le.1 (roundDiv_near (aligned m).1 (aligned_div m).1)
  rw [← rounded] at hbelow habove
  have hleast : (2 ^ 52 : ℚ) < rounded m + 1 := by linarith
  have hmost : (rounded m : ℚ) < 2 ^ 53 + 1 := by linarith
  constructor
  · exact Nat.le_of_lt_succ (by exact_mod_cast hleast)
  · exact Nat.le_of_lt_succ (by exact_mod_cast hmost)

/-- A number of at most 53 bits is whole when aligned, and so is the power of two after them. -/
theorem aligned_exact (hm : 0 < m) (h : m ≤ 2 ^ 53) : (aligned m).1 % (aligned m).2 = 0 := by
  unfold aligned scaleDown
  split
  · exact Nat.mod_one _
  · next hlarge =>
    have hlog : m.log2 ≤ 53 := Nat.le_of_lt_succ ((Nat.log2_lt hm.ne').2 (by omega))
    obtain hlog | hlog : m.log2 = 52 ∨ m.log2 = 53 := by omega
    · rw [hlog]
      exact Nat.mod_one _
    · have hlast : m = 2 ^ 53 := by
        have hleast := Nat.log2_self_le hm.ne'
        rw [hlog] at hleast
        omega
      rw [hlog, hlast]
      decide

/-- Scaled up again, what was whole when aligned is the number. -/
theorem rounded_exact (h : (aligned m).1 % (aligned m).2 = 0) :
    (rounded m : ℚ) * 2 ^ ((m.log2 : Int) - 52) = m := by
  obtain ⟨hpositive, hratio⟩ := aligned_div m
  have hstep : (2 : ℚ) ^ ((m.log2 : Int) - 52) ≠ 0 := by positivity
  have hpositive' : ((aligned m).2 : ℚ) ≠ 0 := by exact_mod_cast hpositive.ne'
  have hdiv : ((aligned m).1 : ℚ) = ((aligned m).1 / (aligned m).2 : Nat) * (aligned m).2 := by
    exact_mod_cast (Nat.div_mul_cancel (Nat.dvd_of_mod_eq_zero h)).symm
  rw [rounded, roundDiv_eq hpositive h]
  rw [hdiv, mul_div_assoc, div_self hpositive', mul_one] at hratio
  rw [hratio, div_mul_cancel₀ _ hstep]

/-- Scaled up again, what was rounded is whole, and up to two to the fifty-third the number. -/
theorem rounded_whole (hm : 0 < m) :
    ∃ size : Nat, (rounded m : ℚ) * 2 ^ ((m.log2 : Int) - 52) = size ∧
      (m ≤ 2 ^ 53 → size = m) := by
  by_cases hexact : (aligned m).1 % (aligned m).2 = 0
  · exact ⟨m, rounded_exact hexact, fun _ => rfl⟩
  · have hlarge : 0 ≤ (m.log2 : Int) - 52 := by
      by_contra hneg
      refine hexact ?_
      unfold aligned scaleDown
      rw [if_pos (by omega)]
      exact Nat.mod_one _
    obtain ⟨k, hk⟩ := Int.eq_ofNat_of_zero_le hlarge
    refine ⟨rounded m * 2 ^ k, ?_, fun h => absurd (aligned_exact hm h) hexact⟩
    rw [hk, zpow_natCast]
    push_cast
    rfl

theorem standard_mk (negative : Bool) {significand : Nat} (full : 2 ^ 52 ≤ significand)
    (bounded : significand < 2 ^ 53) (least : -1074 ≤ e) :
    (Binary64.mk negative significand e).Standard :=
  ⟨lt_of_lt_of_le (by decide) full, bounded, least, fun _ => full⟩

/-- A significand of one bit too many is the least one of the next exponent. -/
theorem standard_carry (negative : Bool) {rounded : Nat} (hleast : 2 ^ 52 ≤ rounded)
    (hmost : rounded ≤ 2 ^ 53) (he : -1074 ≤ e) :
    let carried := if rounded = power 2 53 then (power 2 52, e + 1) else (rounded, e)
    (Binary64.mk negative carried.1 carried.2).Standard ∧
      (Binary64.mk negative carried.1 carried.2).magnitude = rounded * 2 ^ e ∧
      carried.2 ≤ e + 1 := by
  rw [show power 2 53 = 2 ^ 53 from rfl, show power 2 52 = 2 ^ 52 from rfl]
  dsimp only
  split
  · next hcarry =>
    have hbounded : 2 ^ 52 < 2 ^ 53 := by decide
    refine ⟨standard_mk negative le_rfl hbounded (by omega), ?_, le_rfl⟩
    rw [magnitude, hcarry, zpow_add_one₀ (by norm_num)]
    push_cast
    ring
  · next hplain =>
    have hbounded : rounded < 2 ^ 53 := lt_of_le_of_ne hmost hplain
    exact ⟨standard_mk negative hleast hbounded he, rfl, Int.le_add_one le_rfl⟩

/-- **A whole number becomes a double of whole size**, which is its own up to two to the
fifty-third. -/
theorem ofRatio?_whole (negative : Bool) (hm : 0 < m) (hsmall : m < 2 ^ 64) :
    ∃ x size, ofRatio? negative m 1 = some x ∧ x.negative = negative ∧ x.Whole size ∧
      (m ≤ 2 ^ 53 → size = m) := by
  have hlog : m.log2 < 64 := (Nat.log2_lt hm.ne').2 hsmall
  obtain ⟨hleast, hmost⟩ := rounded_bounds hm
  obtain ⟨size, hsize, hsame⟩ := rounded_whole hm
  obtain ⟨standard, hcarried, hexponent⟩ :=
    standard_carry negative hleast hmost (show -1074 ≤ (m.log2 : Int) - 52 by omega)
  have hbounded : (size : ℚ) ≤ 2 ^ 64 := by
    rw [← hsize]
    calc (rounded m : ℚ) * 2 ^ ((m.log2 : Int) - 52)
        ≤ 2 ^ 53 * 2 ^ (11 : Int) := by
          apply mul_le_mul
          · exact_mod_cast hmost
          · exact zpow_le_zpow_right₀ (by norm_num) (by omega)
          · positivity
          · positivity
      _ = 2 ^ 64 := by norm_num
  unfold ofRatio?
  rw [if_neg hm.ne', exponentFor_eq hm]
  dsimp only
  rw [scaleDown_eq_aligned, ← rounded]
  generalize (if rounded m = power 2 53 then _ else _) = carried at *
  exact ⟨⟨negative, carried.1, carried.2⟩, size, if_neg (by omega), rfl,
    ⟨standard, hcarried.trans hsize, by exact_mod_cast hbounded⟩, hsame⟩

theorem ofInt_zero : ofInt 0 = zero false := rfl

/-- **A number of sixty-four bits becomes a double of whole size** with its sign. -/
theorem ofInt_whole {value : Int} (hvalue : value ≠ 0) (hsmall : value.natAbs < 2 ^ 64) :
    ∃ size, (ofInt value).Whole size ∧ (ofInt value).negative = decide (value < 0) ∧
      (value.natAbs ≤ 2 ^ 53 → size = value.natAbs) := by
  obtain ⟨x, size, hx, hsign, whole, hsame⟩ :=
    ofRatio?_whole (decide (value < 0)) (Int.natAbs_pos.2 hvalue) hsmall
  have hofInt : ofInt value = x := by
    rw [ofInt, hx]
    rfl
  rw [hofInt]
  exact ⟨size, whole, hsign, hsame⟩

/-- **Up to two to the fifty-third, no two whole numbers share a double.** -/
theorem ofInt_inj {a b : Int} (ha : a.natAbs ≤ 2 ^ 53) (hb : b.natAbs ≤ 2 ^ 53) :
    ofInt a = ofInt b ↔ a = b := by
  refine ⟨fun h => ?_, fun h => h ▸ rfl⟩
  have absent {value : Int} (hvalue : value ≠ 0) (hsmall : value.natAbs ≤ 2 ^ 53) :
      ofInt value ≠ ofInt 0 := by
    intro heq
    obtain ⟨size, whole, -⟩ := ofInt_whole hvalue (by omega)
    have hnonzero := whole.standard.nonzero
    rw [heq, ofInt_zero] at hnonzero
    exact absurd hnonzero (by decide)
  by_cases ha0 : a = 0
  · by_contra hb0
    exact absent (by omega) hb (by rw [← h, ha0])
  by_cases hb0 : b = 0
  · exact absurd (by rw [h, hb0]) (absent ha0 ha)
  obtain ⟨sizeA, wholeA, signA, sameA⟩ := ofInt_whole ha0 (by omega)
  obtain ⟨sizeB, wholeB, signB, sameB⟩ := ofInt_whole hb0 (by omega)
  have hsize : (sizeA : ℚ) = sizeB := by
    rw [← wholeA.magnitude_eq, ← wholeB.magnitude_eq, h]
  have habs : a.natAbs = b.natAbs := by
    rw [← sameA ha, ← sameB hb]
    exact_mod_cast hsize
  have hsign := congrArg Binary64.negative h
  rw [signA, signB, decide_eq_decide] at hsign
  omega

/-- The next number shares its double with the last one. -/
example : ofInt (2 ^ 53 + 1) = ofInt (2 ^ 53) := by decide

/-! ## The text of a whole double -/

variable {digits k : Nat}

theorem Whole.pos (whole : x.Whole size) : 0 < size := by
  have hmagnitude := whole.standard.magnitude_pos
  rw [whole.magnitude_eq] at hmagnitude
  exact_mod_cast hmagnitude

/-- A whole double is its own neighbour among the whole numbers. -/
theorem Whole.isSome_onGrid? (whole : x.Whole size) : (x.rounding.onGrid? 0).isSome := by
  apply Binary64.isSome_onGrid? whole.standard
  intro digits hnear
  rw [decimalValue, zpow_zero, mul_one, whole.magnitude_eq] at *
  obtain ⟨hlow, hhigh⟩ := abs_le.1 hnear
  have hle : (digits : ℚ) < size + 1 := by linarith
  have hge : (size : ℚ) < digits + 1 := by linarith
  have hdigits : digits = size :=
    le_antisymm (Nat.le_of_lt_succ (by exact_mod_cast hle))
      (Nat.le_of_lt_succ (by exact_mod_cast hge))
  rw [hdigits, ← whole.magnitude_eq]
  exact roundsTo_magnitude whole.standard

/-- The shortest decimal of a whole double has no digit behind the point. -/
theorem Whole.shortest_nonneg (whole : x.Whole size) : 0 ≤ x.shortest.2 := by
  obtain ⟨hden, hvalue, -⟩ := rounding_bounds whole.standard
  have hbefore : 0 < digitsBeforePoint x.rounding.value x.rounding.den := by
    by_contra hneg
    obtain ⟨-, hhigh⟩ := digitsBeforePoint_bounds (value_pos whole.standard) hden
    rw [hvalue, whole.magnitude_eq] at hhigh
    have hone : (1 : ℚ) ≤ size := by exact_mod_cast whole.pos
    have hsmall : (10 : ℚ) ^ digitsBeforePoint x.rounding.value x.rounding.den ≤ 1 :=
      zpow_le_one_of_nonpos₀ (by norm_num) (by omega)
    linarith
  by_cases hmany : digitsBeforePoint x.rounding.value x.rounding.den ≤ 17
  · obtain ⟨last, hlast⟩ := Int.eq_ofNat_of_zero_le hbefore.le
    have found : (x.rounding.onGrid?
        (digitsBeforePoint x.rounding.value x.rounding.den - last)).isSome := by
      rw [hlast, sub_self]
      exact whole.isSome_onGrid?
    have hfine := (shortest_of_found whole.standard (by omega) (by omega) found).2
    omega
  · have hfine := (shortest_of_found whole.standard (by decide) le_rfl
      (isSome_onGrid?_seventeen whole.standard)).2
    omega

/-- Zeros behind the digits of a number are a power of ten. -/
theorem toDigits_mul_power (hdigits : 0 < digits) :
    Nat.toDigits 10 (digits * 10 ^ k) = Nat.toDigits 10 digits ++ zeros k := by
  induction k with
  | zero => rw [pow_zero, Nat.mul_one, zeros, List.replicate_zero, List.append_nil]
  | succ k ih =>
      have hpositive : 0 < digits * 10 ^ k := by positivity
      calc Nat.toDigits 10 (digits * 10 ^ (k + 1))
          = Nat.toDigits 10 (10 * (digits * 10 ^ k) + 0) := by
            congr 1
            ring
        _ = Nat.toDigits 10 (digits * 10 ^ k) ++ Nat.toDigits 10 0 :=
            (Nat.toDigits_append_toDigits (by decide) hpositive (by decide)).symm
        _ = Nat.toDigits 10 digits ++ zeros (k + 1) := by
            rw [ih, zeros, zeros, List.replicate_succ', List.append_assoc]
            rfl

/-- A decimal with no digit behind the point is laid out as a whole number of up to twenty-one
digits. -/
theorem layout_whole (hdigits : 0 < digits) (hsmall : digits * 10 ^ k < 10 ^ 21) :
    layout canonicalStyle (Nat.toDigits 10 digits) k = Nat.toDigits 10 (digits * 10 ^ k) := by
  have hlength := (Nat.length_toDigits_le_iff (by decide) (by decide)).2 hsmall
  have hinhabited : 0 < (Nat.toDigits 10 digits).length := Nat.length_toDigits_pos
  rw [toDigits_mul_power hdigits, zeros, List.length_append, List.length_replicate] at hlength
  have hplace : 0 < ((Nat.toDigits 10 digits).length : Int) + k ∧
      ((Nat.toDigits 10 digits).length : Int) + k ≤ canonicalStyle.mostBefore := by
    rw [show canonicalStyle.mostBefore = 21 from rfl]
    omega
  unfold layout
  dsimp only
  rw [if_pos hplace, if_pos (Int.natCast_nonneg k), toDigits_mul_power hdigits,
    Int.natAbs_natCast]
  exact List.append_nil _

/-- The sign of a double before its digits. -/
def signChars (x : Binary64) : List Char := if x.negative then ['-'] else []

/-- **A whole double is written as the digits of a whole number that rounds to it.** -/
theorem Whole.canonicalNumber_eq (whole : x.Whole size) :
    ∃ value : Nat, 0 < value ∧ RoundsTo value x ∧
      Json.canonicalNumber x = x.signChars ++ Nat.toDigits 10 value := by
  have rounds := roundsTo_shortest whole.standard
  obtain ⟨k, hk⟩ := Int.eq_ofNat_of_zero_le whole.shortest_nonneg
  rw [decimalValue, hk, zpow_natCast] at rounds
  have rounds : RoundsTo ((x.shortest.1 * 10 ^ k : Nat) : ℚ) x := by
    push_cast
    exact rounds
  have hpositive : 0 < x.shortest.1 * 10 ^ k := by
    exact_mod_cast rounds.pos whole.standard
  have hsmall : x.shortest.1 * 10 ^ k < 10 ^ 21 := by
    have htwice := rounds.le_twice whole.standard
    rw [whole.magnitude_eq] at htwice
    have htwice' : x.shortest.1 * 10 ^ k ≤ 2 * size := by exact_mod_cast htwice
    have := whole.bounded
    omega
  refine ⟨_, hpositive, rounds, ?_⟩
  have hnonzero := whole.standard.nonzero.ne'
  have hsign : (if x.negative ∧ (x.significand ≠ 0 ∨ canonicalStyle.signedZero = true)
      then ['-'] else []) = x.signChars := by
    simp [signChars, hnonzero]
  unfold Json.canonicalNumber render
  rw [if_neg hnonzero, hsign, String.toList_ofList, hk]
  exact congrArg _ (layout_whole (Nat.pos_of_mul_pos_right hpositive) hsmall)

theorem toDigits_inj {a b : Nat} (h : Nat.toDigits 10 a = Nat.toDigits 10 b) : a = b := by
  rw [← Json.Reader.digitsValue_toDigits a, h, Json.Reader.digitsValue_toDigits]

/-- The text of a whole double tells its sign, its digits being digits. -/
theorem signChars_inj {a b : Nat}
    (h : x.signChars ++ Nat.toDigits 10 a = y.signChars ++ Nat.toDigits 10 b) :
    x.negative = y.negative ∧ a = b := by
  have plain {n : Nat} {rest : List Char} : Nat.toDigits 10 n ≠ '-' :: rest := by
    intro heq
    have hdigit : Char.isDigit '-' = true :=
      Text.isDigit_of_mem_toDigits (heq ▸ List.mem_cons_self)
    exact absurd hdigit (by decide)
  unfold signChars at h
  split_ifs at h with hx hy hy
  · exact ⟨hx.trans hy.symm, toDigits_inj (List.cons.inj h).2⟩
  · exact absurd h.symm plain
  · exact absurd h plain
  · exact ⟨by simp [hx, hy], toDigits_inj h⟩

/-- **The text of a whole double tells the double.** -/
theorem Whole.canonicalNumber_inj {other : Nat} (hx : x.Whole size) (hy : y.Whole other)
    (h : Json.canonicalNumber x = Json.canonicalNumber y) : x = y := by
  obtain ⟨value, -, toX, textX⟩ := hx.canonicalNumber_eq
  obtain ⟨value', -, toY, textY⟩ := hy.canonicalNumber_eq
  rw [textX, textY] at h
  obtain ⟨hsign, rfl⟩ := signChars_inj h
  obtain ⟨hsignificand, hexponent⟩ := toX.unique hx.standard hy.standard toY
  cases x
  cases y
  congr

theorem Whole.canonicalNumber_ne_zero (whole : x.Whole size) :
    Json.canonicalNumber x ≠ Json.canonicalNumber (zero false) := by
  obtain ⟨value, hpositive, -, text⟩ := whole.canonicalNumber_eq
  have hzero : Json.canonicalNumber (zero false) =
      (zero false).signChars ++ Nat.toDigits 10 0 := rfl
  intro heq
  rw [text, hzero] at heq
  exact hpositive.ne' (signChars_inj heq).2

/-- **Numbers of sixty-four bits are written alike only if they round to one double.** -/
theorem canonicalNumber_ofInt {a b : Int} (ha : a.natAbs < 2 ^ 64) (hb : b.natAbs < 2 ^ 64) :
    Json.canonicalNumber (ofInt a) = Json.canonicalNumber (ofInt b) ↔ ofInt a = ofInt b := by
  refine ⟨fun h => ?_, congrArg _⟩
  by_cases ha0 : a = 0
  · by_cases hb0 : b = 0
    · rw [ha0, hb0]
    · obtain ⟨_, whole, -⟩ := ofInt_whole hb0 hb
      rw [ha0] at h
      exact absurd h.symm whole.canonicalNumber_ne_zero
  · obtain ⟨_, wholeA, -⟩ := ofInt_whole ha0 ha
    by_cases hb0 : b = 0
    · rw [hb0] at h
      exact absurd h wholeA.canonicalNumber_ne_zero
    · obtain ⟨_, wholeB, -⟩ := ofInt_whole hb0 hb
      exact wholeA.canonicalNumber_inj wholeB h

end Binary64

end ArtifactStaging
