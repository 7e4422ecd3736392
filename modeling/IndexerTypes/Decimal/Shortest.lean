/-! The shortest decimal that reads back as a given binary float. A finite float is a whole
number times a power of two; every real that rounds to it lies in an interval around it, and
the coarsest decimal grid with a point in that interval gives the digits. All of the
arithmetic is exact. -/

namespace IndexerTypes.Decimal

/-- A float's magnitude: `mantissa * 2 ^ (exponent - 1077)`, where the exponent is at least 1. -/
structure Binary where
  negative : Bool
  mantissa : Nat
  exponent : Nat

def Binary.ofFloat (x : Float) : Binary :=
  let bits := x.toBits.toNat
  let fraction := bits % Nat.pow 2 52
  let scale := bits / Nat.pow 2 52 % Nat.pow 2 11
  if scale = 0 then ⟨x.toBits.toNat ≥ Nat.pow 2 63, fraction, 3⟩
  else ⟨x.toBits.toNat ≥ Nat.pow 2 63, fraction + Nat.pow 2 52, scale + 2⟩

/-- Whether `point * 10 ^ (grid - 400)` lies between the halves of the gaps on both sides of
the float. The ends count when the mantissa is even. -/
def Binary.covers (b : Binary) (point grid : Nat) : Bool :=
  let unit := Nat.pow 2 (b.exponent - 1)
  let low := (if b.mantissa = Nat.pow 2 52 && b.exponent > 3 then 4 * b.mantissa - 1
    else 4 * b.mantissa - 2) * unit * Nat.pow 10 400
  let high := (4 * b.mantissa + 2) * unit * Nat.pow 10 400
  let value := point * Nat.pow 10 grid * Nat.pow 2 1078
  if b.mantissa % 2 = 0 then low ≤ value && value ≤ high else low < value && value < high

/-- The largest point of a grid that is not above the float. -/
def Binary.floorOn (b : Binary) (grid : Nat) : Nat :=
  4 * b.mantissa * Nat.pow 2 (b.exponent - 1) * Nat.pow 10 400 / (Nat.pow 10 grid * Nat.pow 2 1078)

/-- Whether the next point of the grid is nearer than the one below the float. -/
def Binary.nearerAbove (b : Binary) (below grid : Nat) : Bool :=
  (2 * below + 1) * Nat.pow 10 grid * Nat.pow 2 1078 <
    2 * (4 * b.mantissa * Nat.pow 2 (b.exponent - 1) * Nat.pow 10 400)

/-- The digits on this grid or on the first finer one that has a point for the float. -/
def Binary.search (b : Binary) : Nat → Nat × Nat
  | 0 => (b.floorOn 0, 0)
  | grid + 1 =>
    let below := b.floorOn (grid + 1)
    match b.covers below (grid + 1), b.covers (below + 1) (grid + 1) with
    | true, true => if b.nearerAbove below (grid + 1) then (below + 1, grid + 1) else (below, grid + 1)
    | true, false => (below, grid + 1)
    | false, true => (below + 1, grid + 1)
    | false, false => b.search grid

/-- Digits and a power of ten: a finite float is written as `digits * 10 ^ power`. -/
def shortest (x : Float) : Nat × Int :=
  let b := Binary.ofFloat x
  if b.mantissa = 0 then (0, 0)
  else
    let (digits, grid) := b.search 710
    (digits, (grid : Int) - 400)

end IndexerTypes.Decimal
