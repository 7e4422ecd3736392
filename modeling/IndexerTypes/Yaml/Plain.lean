import IndexerTypes.Decimal.Nearest
import IndexerTypes.Json.Quotation
import IndexerTypes.Number

/-! What plain scalars stand for: nothing, truth values, whole numbers in several bases,
floats, and otherwise their own text. Digits behind a leading zero are no number. -/

namespace IndexerTypes.Yaml.Plain

inductive Meaning where
  | null
  | bool (b : Bool)
  | number (n : Number)
  /-- A whole number beyond 64 bits, but within 128. -/
  | oversized
  | text

def isNullWord (s : String) : Bool := s == "null" || s == "Null" || s == "NULL" || s == "~"

def readBool? (s : String) : Option Bool :=
  if s == "true" || s == "True" || s == "TRUE" then some true
  else if s == "false" || s == "False" || s == "FALSE" then some false
  else none

def digitValue? (base : Nat) (c : Char) : Option Nat :=
  (Json.Quotation.hexValue? c).filter (· < base)

/-- Digits of a base, at least one. -/
def readDigits? (base : Nat) (s : List Char) : Option Nat :=
  if s.isEmpty then none
  else s.foldlM (fun value c => (digitValue? base c).map (value * base + ·)) 0

/-- A number with the mark of its base in front; decimal without one. -/
def readMagnitude? : List Char → Option Nat
  | '0' :: 'x' :: s => readDigits? 16 s
  | '0' :: 'o' :: s => readDigits? 8 s
  | '0' :: 'b' :: s => readDigits? 2 s
  | s => readDigits? 10 s

def withoutSign : List Char → List Char
  | '+' :: s => s
  | '-' :: s => s
  | s => s

/-- Whether a zero stands in front of further digits, with nothing but a sign before it. -/
def hasLeadingZero (s : List Char) : Bool :=
  match withoutSign s with
  | '0' :: c :: rest => (c :: rest).all Char.isDigit
  | _ => false

/-- The whole number that a text spells. -/
def readInt? (s : List Char) : Option Meaning :=
  if hasLeadingZero s then none
  else
    match s with
    | '-' :: s =>
      match readMagnitude? s with
      | none => none
      | some n =>
        if n = 0 then some (.number (.natural 0))
        else if n ≤ Nat.pow 2 63 then some (.number (.negative n))
        else if n ≤ Nat.pow 2 127 then some .oversized
        else none
    | s =>
      match readMagnitude? (if s.head? = some '+' then s.drop 1 else s) with
      | none => none
      | some n =>
        if n < Nat.pow 2 64 then some (.number (.natural n))
        else if n < Nat.pow 2 128 then some .oversized
        else none

/-- A decimal numeral, without its sign. -/
structure Numeral where
  whole : List Char
  fraction : List Char
  exponentDown : Bool
  exponent : Nat

def readExponent? : List Char → Option (Bool × Nat)
  | [] => some (false, 0)
  | c :: s =>
    if c == 'e' || c == 'E' then
      let down := s.head? == some '-'
      let digits := if down || s.head? == some '+' then s.drop 1 else s
      (readDigits? 10 digits).map fun n => (down, n)
    else none

/-- Digits, a point and digits, where one side may be empty, and perhaps an exponent. -/
def readNumeral? (s : List Char) : Option Numeral :=
  let whole := s.takeWhile Char.isDigit
  let rest := s.dropWhile Char.isDigit
  let fraction := if rest.head? == some '.' then (rest.drop 1).takeWhile Char.isDigit else []
  let rest := if rest.head? == some '.' then (rest.drop 1).dropWhile Char.isDigit else rest
  if whole.isEmpty && fraction.isEmpty then none
  else (readExponent? rest).map fun (down, n) => ⟨whole, fraction, down, n⟩

/-- Beyond these powers of ten every float is infinite or zero. -/
def maxPower : Int := 310

def minPower : Int := -345

/-- The nearest float, if it is finite. -/
def Numeral.float? (n : Numeral) : Option Float :=
  let figures := (n.whole ++ n.fraction).dropWhile (· == '0')
  let shift : Int := if n.exponentDown then -(n.exponent : Int) else n.exponent
  let power : Int := shift - n.fraction.length
  let top : Int := power + figures.length
  if figures.isEmpty || top < minPower then some 0
  else if top > maxPower then none
  else
    let x := Decimal.nearest (Nat.ofDigitChars 10 figures 0) power
    if x.isInf then none else some x

/-- Infinities and the value that is no number have words of their own. -/
def readSpecial? (s : String) : Option Float :=
  if [".inf", ".Inf", ".INF", "+.inf", "+.Inf", "+.INF"].contains s then some (1 / 0)
  else if ["-.inf", "-.Inf", "-.INF"].contains s then some (-1 / 0)
  else if [".nan", ".NaN", ".NAN"].contains s then some (0 / 0)
  else none

def readUnsignedFloat? (s : List Char) : Option Float := (readNumeral? s).bind Numeral.float?

def readFloat? (s : String) : Option Float :=
  match readSpecial? s with
  | some x => some x
  | none =>
    match s.toList with
    | '+' :: s => readUnsignedFloat? s
    | '-' :: s => (readUnsignedFloat? s).map (- ·)
    | s => readUnsignedFloat? s

/-- What a plain scalar stands for. -/
def meaning (s : String) : Meaning :=
  if s.isEmpty || isNullWord s then .null
  else
    match readBool? s with
    | some b => .bool b
    | none =>
      match readInt? s.toList with
      | some meaning => meaning
      | none =>
        if hasLeadingZero s.toList then .text
        else
          match readFloat? s with
          | some x => .number (.real x)
          | none => .text

end IndexerTypes.Yaml.Plain
