/-!
# Decimals with fixed places

A number is written with a fixed count of decimal places: the nearest such decimal, and of two that
are equally near the one with an even last digit.
-/

namespace LineLexer.Decimal

/-- The whole number nearest to a quotient; a half goes to the even neighbour. -/
def roundDiv (num den : Nat) : Nat :=
  let quotient := num / den
  let twice := 2 * (num % den)
  if twice < den then quotient
  else if den < twice then quotient + 1
  else quotient + quotient % 2

/-- Writes `value / 10 ^ places`. -/
def placePoint (places value : Nat) : String :=
  let digits := (Nat.toDigits 10 value).leftpad (places + 1) '0'
  let whole := digits.length - places
  if places = 0 then String.ofList digits
  else String.ofList (digits.take whole ++ '.' :: digits.drop whole)

/-- Writes a quotient with fixed places. -/
def ofQuotient (places num den : Nat) : String :=
  placePoint places (roundDiv (num * Nat.pow 10 places) den)

/-- A number without sign that is no infinity, as the quotient that its bits denote. -/
def quotientOfBits (bits : Nat) : Nat × Nat :=
  let exponent := bits / Nat.pow 2 52 % Nat.pow 2 11
  let fraction := bits % Nat.pow 2 52
  if exponent = 0 then (fraction, Nat.pow 2 1074)
  else if exponent < 1075 then (fraction + Nat.pow 2 52, Nat.pow 2 (1075 - exponent))
  else ((fraction + Nat.pow 2 52) * Nat.pow 2 (exponent - 1075), 1)

/-- Writes a binary floating-point number without sign with fixed places. -/
def fixed (places : Nat) (x : Float) : String :=
  let (num, den) := quotientOfBits x.toBits.toNat
  ofQuotient places num den

/-- The quotient lies within half a unit of what it is rounded to. -/
theorem roundDiv_near (num : Nat) {den : Nat} (h : 0 < den) :
    2 * num ≤ 2 * (roundDiv num den * den) + den ∧
      2 * (roundDiv num den * den) ≤ 2 * num + den := by
  have hdiv := Nat.div_add_mod num den
  have hlt := Nat.mod_lt num h
  have hcomm : den * (num / den) = num / den * den := Nat.mul_comm _ _
  have hsucc : (num / den + 1) * den = num / den * den + den := Nat.succ_mul _ _
  have hcases : roundDiv num den = num / den ∧ 2 * (num % den) ≤ den ∨
      roundDiv num den = num / den + 1 ∧ den ≤ 2 * (num % den) := by
    rw [roundDiv]
    split
    · exact Or.inl ⟨rfl, by omega⟩
    · split
      · exact Or.inr ⟨rfl, by omega⟩
      · rcases Nat.mod_two_eq_zero_or_one (num / den) with hm | hm
        · exact Or.inl ⟨by simp [hm], by omega⟩
        · exact Or.inr ⟨by simp [hm], by omega⟩
  rcases hcases with ⟨heq, hle⟩ | ⟨heq, hle⟩ <;> rw [heq] <;> omega

end LineLexer.Decimal
