/-
# ArtifactStaging.Number.Power -- powers, and the numbers that fit a width

`power base exponent` is the power of a natural number.  The numbers below are
the ends of the ranges that words of sixteen, thirty-two and sixty-four bits
hold, the last also with a sign.
-/

set_option autoImplicit false

namespace ArtifactStaging

/-- The product of `exponent` factors `base`. -/
def power (base exponent : Nat) : Nat := Nat.pow base exponent

theorem power_succ (base exponent : Nat) :
    power base (exponent + 1) = power base exponent * base := rfl

theorem power_pos {base : Nat} (h : 0 < base) (exponent : Nat) : 0 < power base exponent := by
  induction exponent with
  | zero => exact Nat.one_pos
  | succ exponent ih => rw [power_succ]; exact Nat.mul_pos ih h

namespace Width

/-- The greatest number of sixteen bits. -/
abbrev most16 : Int := 65535

/-- The greatest number of thirty-two bits. -/
abbrev most32 : Int := 4294967295

/-- The greatest number of sixty-four bits. -/
abbrev most64 : Int := 18446744073709551615

/-- The least number of sixty-four bits with a sign. -/
abbrev leastSigned64 : Int := -9223372036854775808

/-- The greatest number of sixty-four bits with a sign. -/
abbrev mostSigned64 : Int := 9223372036854775807

end Width

end ArtifactStaging
