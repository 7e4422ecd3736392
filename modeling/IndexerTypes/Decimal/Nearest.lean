/-! The binary float nearest to a decimal. The quotient is scaled until it has the 53 digits
of a mantissa, or until its exponent is the least there is; what is left of the division says
how to round, and a tie goes to the even mantissa. -/

namespace IndexerTypes.Decimal

/-- `numerator / denominator` in units of `2 ^ exponent`, as a fraction. -/
def scaled (numerator denominator : Nat) (exponent : Int) : Nat × Nat :=
  if exponent ≥ 0 then (numerator, denominator * Nat.pow 2 exponent.toNat)
  else (numerator * Nat.pow 2 (-exponent).toNat, denominator)

/-- The whole number nearest to a fraction; of two, the even one. -/
def rounded (numerator denominator : Nat) : Nat :=
  let below := numerator / denominator
  let rest := 2 * (numerator % denominator)
  if rest < denominator || (rest = denominator && below % 2 = 0) then below else below + 1

/-- The exponent for which a quotient has 53 binary digits. -/
def exponentOf (numerator denominator : Nat) : Int :=
  let exponent : Int := (numerator.log2 : Int) - denominator.log2 - 53
  let (n, d) := scaled numerator denominator exponent
  if n / d ≥ Nat.pow 2 53 then exponent + 1 else exponent

def leastExponent : Int := -1074

/-- The bits of positive infinity. -/
def infinityBits : Nat := 0x7FF0000000000000

/-- The bits of the float nearest to a positive fraction. -/
def nearestBits (numerator denominator : Nat) : Nat :=
  let exponent := max (exponentOf numerator denominator) leastExponent
  let (n, d) := scaled numerator denominator exponent
  min ((exponent - leastExponent).toNat * Nat.pow 2 52 + rounded n d) infinityBits

/-- The float nearest to `digits * 10 ^ power`. -/
def nearest (digits : Nat) (power : Int) : Float :=
  if digits = 0 then 0
  else
    let (n, d) :=
      if power ≥ 0 then (digits * Nat.pow 10 power.toNat, 1)
      else (digits, Nat.pow 10 (-power).toNat)
    Float.ofBits (UInt64.ofNat (nearestBits n d))

end IndexerTypes.Decimal
