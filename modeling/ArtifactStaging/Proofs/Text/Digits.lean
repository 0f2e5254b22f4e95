/-
# ArtifactStaging.Proofs.Text.Digits -- decimal digits and the numbers they stand for

A number is written as its decimal digits, the first of which is zero only for zero
itself.  Reading them, digit by digit, gives the number back, and a row of digits is
read up to where it ends.
-/
import ArtifactStaging.Json.Reader

set_option autoImplicit false

namespace ArtifactStaging

namespace Text

variable {chars rest : List Char} {p : Char → Bool} {n : Nat}

/-- Characters of a kind in front of something else are what is taken as that kind. -/
theorem takeWhile_append (all : ∀ c ∈ chars, p c = true) (ends : ∀ c ∈ rest.head?, p c = false) :
    (chars ++ rest).takeWhile p = chars := by
  rw [List.takeWhile_append_of_pos all]
  cases rest with
  | nil => simp
  | cons c rest => rw [List.takeWhile_cons_of_neg (by simp [ends c rfl]), List.append_nil]

theorem dropWhile_append (all : ∀ c ∈ chars, p c = true) (ends : ∀ c ∈ rest.head?, p c = false) :
    (chars ++ rest).dropWhile p = rest := by
  rw [List.dropWhile_append_of_pos all]
  cases rest with
  | nil => rfl
  | cons c rest => rw [List.dropWhile_cons_of_neg (by simp [ends c rfl])]

theorem isDigit_of_mem_toDigits {c : Char} (h : c ∈ Nat.toDigits 10 n) : c.isDigit = true :=
  Nat.isDigit_of_mem_toDigits (by decide) (by decide) h

/-- Digits read one after the other are the number they stand for. -/
theorem foldl_digits (digits : List Char) (start : Nat) :
    digits.foldl (fun total c => total * 10 + (c.toNat - 48)) start =
      Nat.ofDigitChars 10 digits start := by
  simp only [Nat.ofDigitChars, Nat.mul_comm]
  rfl

/-- A zero is the first of several digits of no number. -/
theorem toDigits_ne_zero_cons {c : Char} : Nat.toDigits 10 n ≠ '0' :: c :: rest := by
  induction n using Nat.strongRecOn generalizing c rest with
  | ind n ih =>
      intro heq
      rw [Nat.toDigits_eq_if (by decide)] at heq
      split at heq
      · simp at heq
      · next hlarge =>
        cases hfront : Nat.toDigits 10 (n / 10) with
        | nil => exact Nat.toDigits_ne_nil hfront
        | cons d front =>
            rw [hfront] at heq
            obtain rfl := (List.cons.inj heq).1
            cases front with
            | cons d' front => exact ih (n / 10) (by omega) hfront
            | nil =>
                have hvalue : Nat.ofDigitChars 10 (Nat.toDigits 10 (n / 10)) 0 = n / 10 :=
                  Nat.ofDigitChars_ten_toDigits
                rw [hfront] at hvalue
                have : n / 10 = 0 := hvalue.symm
                omega

end Text

namespace Json.Reader

theorem digitsValue_toDigits (n : Nat) : digitsValue (Nat.toDigits 10 n) = n := by
  rw [digitsValue, Text.foldl_digits, Nat.ofDigitChars_ten_toDigits]

end Json.Reader

end ArtifactStaging
