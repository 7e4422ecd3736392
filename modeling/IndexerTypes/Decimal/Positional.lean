import IndexerTypes.Decimal.Shortest

/-! Floats as texts without an exponent, with at least one digit after the point. -/

namespace IndexerTypes.Decimal

/-- `digits * 10 ^ power` with a point. -/
def placed (digits : Nat) (power : Int) : String :=
  if power ≥ 0 then toString (digits * Nat.pow 10 power.toNat) ++ ".0"
  else
    let places := (-power).toNat
    let figures := Nat.toDigits 10 digits
    let padded := List.replicate (places + 1 - figures.length) '0' ++ figures
    let whole := padded.take (padded.length - places)
    let fraction := padded.drop (padded.length - places)
    String.ofList (whole ++ '.' :: fraction)

/-- A float with its sign, where `write` writes the digits and the power of ten. -/
def signed (write : Nat → Int → String) (x : Float) : String :=
  if x.isNaN then "NaN"
  else
    let sign := if (Binary.ofFloat x).negative then "-" else ""
    if x.isInf then sign ++ "inf"
    else
      let (digits, power) := shortest x
      sign ++ write digits power

def positional (x : Float) : String := signed placed x

end IndexerTypes.Decimal
