import IndexerTypes.Decimal.Nearest
import IndexerTypes.Json.Basic

/-! Numerals: a sign, digits, a fraction and an exponent. A numeral without fraction and
exponent is a whole number if 64 bits hold it; every other one is a float, computed from at
most 64 bits of digits and one power of ten. -/

namespace IndexerTypes.Json

structure Numeral where
  negative : Bool
  whole : List Char
  fraction : Option (List Char)
  exponent : Option (Bool × List Char)

namespace Numeral

def digitsOf (s : List Char) : List Char × List Char := s.span Char.isDigit

/-- One digit zero, or digits that do not start with zero. -/
def readWhole (s : List Char) : Option (List Char × List Char) :=
  match digitsOf s with
  | ([], _) => none
  | (['0'], rest) => some (['0'], rest)
  | ('0' :: _, _) => none
  | (digits, rest) => some (digits, rest)

def readFraction : List Char → Option (Option (List Char) × List Char)
  | '.' :: s =>
    match digitsOf s with
    | ([], _) => none
    | (digits, rest) => some (some digits, rest)
  | s => some (none, s)

def readExponentDigits (negative : Bool) (s : List Char) :
    Option (Option (Bool × List Char) × List Char) :=
  match digitsOf s with
  | ([], _) => none
  | (digits, rest) => some (some (negative, digits), rest)

def readExponent : List Char → Option (Option (Bool × List Char) × List Char)
  | c :: s =>
    if c = 'e' ∨ c = 'E' then
      match s with
      | '+' :: s => readExponentDigits false s
      | '-' :: s => readExponentDigits true s
      | s => readExponentDigits false s
    else some (none, c :: s)
  | [] => some (none, [])

def readUnsigned (negative : Bool) (s : List Char) : Option (Numeral × List Char) := do
  let (whole, s) ← readWhole s
  let (fraction, s) ← readFraction s
  let (exponent, s) ← readExponent s
  pure (⟨negative, whole, fraction, exponent⟩, s)

/-- The numeral at the start of a text. -/
def read : List Char → Option (Numeral × List Char)
  | '-' :: s => readUnsigned true s
  | s => readUnsigned false s

def natOf (digits : List Char) : Nat := Nat.ofDigitChars 10 digits 0

/-- Digits are taken up as long as 64 bits hold the result. -/
def takeDigits (value : Nat) : List Char → Nat × List Char
  | [] => (value, [])
  | c :: rest =>
    let next := 10 * value + (c.toNat - '0'.toNat)
    if next < Nat.pow 2 64 then takeDigits next rest else (value, c :: rest)

def powerOfTen (k : Nat) : Float := Decimal.nearest 1 k

/-- A float moved by a power of ten, in steps that stay within range. -/
def shift (x : Float) (power : Int) : Nat → Option Float
  | 0 => some 0
  | fuel + 1 =>
    if power.natAbs ≤ 308 then
      let moved := if power ≥ 0 then x * powerOfTen power.natAbs else x / powerOfTen power.natAbs
      if moved.isInf then none else some moved
    else if x == 0 then some 0
    else if power ≥ 0 then none
    else shift (x / powerOfTen 308) (power + 308) fuel

def withSign (negative : Bool) (x : Float) : Float := if negative then -x else x

/-- The float of a numeral; `none` beyond the range of floats. -/
def float? (n : Numeral) : Option Float :=
  let (head, dropped) := takeDigits 0 n.whole
  let (value, cut) := takeDigits head (n.fraction.getD [])
  let places : Int := ((n.fraction.getD []).length - cut.length : Nat)
  let power : Int := (dropped.length : Int) - places
  match n.exponent with
  | none => (shift value.toUInt64.toFloat power 4).map (withSign n.negative)
  | some (down, digits) =>
    let size := natOf digits
    if size ≥ Nat.pow 2 31 then
      if value ≠ 0 ∧ !down then none else some (withSign n.negative 0)
    else
      (shift value.toUInt64.toFloat (if down then power - size else power + size) 4).map
        (withSign n.negative)

def value (n : Numeral) : Json :=
  let size := natOf n.whole
  if n.fraction.isNone && n.exponent.isNone && !n.negative && size < Nat.pow 2 64 then
    .number (.natural size)
  else if n.fraction.isNone && n.exponent.isNone && n.negative && 0 < size &&
      size ≤ Nat.pow 2 63 then
    .number (.negative size)
  else
    match n.float? with
    | some x => .number (.real x)
    | none => .unreadable

end Numeral

end IndexerTypes.Json
