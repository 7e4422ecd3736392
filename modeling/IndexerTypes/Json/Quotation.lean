/-! Texts between quotes. Reading undoes what writing does, and accepts every other escape
of the format too. -/

namespace IndexerTypes.Json.Quotation

def hexValue? (c : Char) : Option Nat :=
  if c.isDigit then some (c.toNat - '0'.toNat)
  else if 'a' ≤ c ∧ c ≤ 'f' then some (c.toNat - 'a'.toNat + 10)
  else if 'A' ≤ c ∧ c ≤ 'F' then some (c.toNat - 'A'.toNat + 10)
  else none

def unit? (a b c d : Char) : Option Nat := do
  let a ← hexValue? a
  let b ← hexValue? b
  let c ← hexValue? c
  let d ← hexValue? d
  pure (((a * 16 + b) * 16 + c) * 16 + d)

def isHigh (unit : Nat) : Bool := 0xD800 ≤ unit && unit < 0xDC00

def isLow (unit : Nat) : Bool := 0xDC00 ≤ unit && unit < 0xE000

def joined (high low : Nat) : Char :=
  Char.ofNat (0x10000 + (high - 0xD800) * 0x400 + (low - 0xDC00))

def escape? : Char → Option Char
  | '"' => some '"'
  | '\\' => some '\\'
  | '/' => some '/'
  | 'b' => some '\x08'
  | 'f' => some '\x0c'
  | 'n' => some '\n'
  | 'r' => some '\r'
  | 't' => some '\t'
  | _ => none

/-- What a quotation holds, with what follows it. A quotation that is well-formed but has
half of a surrogate pair holds no text. -/
abbrev Reading := Option (Option (List Char) × List Char)

def Reading.after (c : Char) (r : Reading) : Reading :=
  r.map fun (content, rest) => (content.map (c :: ·), rest)

def Reading.withoutText (r : Reading) : Reading := r.map fun (_, rest) => (none, rest)

/-- Reads up to the closing quote. -/
def read : List Char → Reading
  | [] => none
  | '"' :: rest => some (some [], rest)
  | '\\' :: 'u' :: a :: b :: c :: d :: rest =>
    match unit? a b c d with
    | none => none
    | some high =>
      if isHigh high then
        match rest with
        | '\\' :: 'u' :: e :: f :: g :: h :: rest' =>
          match unit? e f g h with
          | none => none
          | some low =>
            if isLow low then (read rest').after (joined high low)
            else (read ('\\' :: 'u' :: e :: f :: g :: h :: rest')).withoutText
        | rest => (read rest).withoutText
      else if isLow high then (read rest).withoutText
      else (read rest).after (Char.ofNat high)
  | '\\' :: c :: rest =>
    match escape? c with
    | none => none
    | some e => (read rest).after e
  | c :: rest => if c.toNat < 0x20 ∨ c = '\\' then none else (read rest).after c

def lowHexDigit (n : Nat) : Char := (Nat.digitChar n)

/-- A character as it stands in a quotation. -/
def write (c : Char) : List Char :=
  match c with
  | '"' => ['\\', '"']
  | '\\' => ['\\', '\\']
  | '\x08' => ['\\', 'b']
  | '\x0c' => ['\\', 'f']
  | '\n' => ['\\', 'n']
  | '\r' => ['\\', 'r']
  | '\t' => ['\\', 't']
  | c =>
    if c.toNat < 0x20 then
      ['\\', 'u', '0', '0', lowHexDigit (c.toNat / 16), lowHexDigit (c.toNat % 16)]
    else [c]

/-- The quotation of a text. -/
def quote (s : List Char) : List Char := '"' :: (s.flatMap write ++ ['"'])

end IndexerTypes.Json.Quotation
