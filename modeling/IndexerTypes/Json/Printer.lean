import IndexerTypes.Json.Basic
import IndexerTypes.Json.Quotation
import IndexerTypes.Decimal.Scientific

/-! Documents as indented texts, one item or member a line. -/

namespace IndexerTypes.Json

/-- Floats from 0.00001 on and below 10 ^ 16 are written without an exponent. -/
def pointRange : Decimal.PointRange := ⟨-5, 15⟩

def renderFloat (x : Float) : String := Decimal.scientific pointRange x

def renderNumber : Number → String
  | .natural n => toString n
  | .negative n => "-" ++ toString n
  | .real x => renderFloat x

def indent (level : Nat) : String := String.ofList (List.replicate (2 * level) ' ')

def renderText (s : String) : String := String.ofList (Quotation.quote s.toList)

mutual

def render (level : Nat) : Json → String
  | null => "null"
  | bool b => if b then "true" else "false"
  | number n => renderNumber n
  | text s => renderText s
  | array [] => "[]"
  | array items => "[" ++ renderItems (level + 1) items ++ "\n" ++ indent level ++ "]"
  | object [] => "\x7b\x7d"
  | object members =>
    "\x7b" ++ renderMembers (level + 1) members ++ "\n" ++ indent level ++ "\x7d"
  | unreadable => "null"

def renderItems (level : Nat) : List Json → String
  | [] => ""
  | [v] => "\n" ++ indent level ++ v.render level
  | v :: rest => "\n" ++ indent level ++ v.render level ++ "," ++ renderItems level rest

def renderMembers (level : Nat) : List (String × Json) → String
  | [] => ""
  | [(key, v)] => "\n" ++ indent level ++ renderText key ++ ": " ++ v.render level
  | (key, v) :: rest =>
    "\n" ++ indent level ++ renderText key ++ ": " ++ v.render level ++ "," ++
      renderMembers level rest

end

end IndexerTypes.Json
