import IndexerTypes.Decimal.Positional

/-! Floats as texts that show very large and very small values with an exponent. -/

namespace IndexerTypes.Decimal

/-- The exponents of a first digit that are not written, since the place of the point
shows them. -/
structure PointRange where
  least : Int
  greatest : Int

/-- One digit in front of the point; no point where there is no other digit. -/
def leading : List Char → List Char
  | [] => []
  | [first] => [first]
  | first :: rest => first :: '.' :: rest

/-- The exponent has its sign, also where it is positive. -/
def exponentText (exponent : Int) : String :=
  (if exponent < 0 then "e-" else "e+") ++ toString exponent.natAbs

/-- `digits * 10 ^ power`, without an exponent where the range allows it. -/
def written (range : PointRange) (digits : Nat) (power : Int) : String :=
  let figures := Nat.toDigits 10 digits
  let exponent := power + figures.length - 1
  if range.least ≤ exponent && exponent ≤ range.greatest then placed digits power
  else String.ofList (leading figures) ++ exponentText exponent

def scientific (range : PointRange) (x : Float) : String := signed (written range) x

end IndexerTypes.Decimal
