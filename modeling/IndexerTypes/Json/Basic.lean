import IndexerTypes.Number

/-! JSON documents as they are written: members in order, repeated keys included. -/

namespace IndexerTypes

inductive Json where
  | null
  | bool (b : Bool)
  | number (n : Number)
  | text (s : String)
  | array (items : List Json)
  | object (members : List (String × Json))
  /-- Well-formed, but without a value: a number beyond the range of floats, a text with
  half of a surrogate pair, or an object with such a text for a key. -/
  | unreadable

namespace Json

mutual

/-- How deep arrays and objects are nested. -/
def depth : Json → Nat
  | array items => depthOfItems items + 1
  | object members => depthOfMembers members + 1
  | _ => 0

def depthOfItems : List Json → Nat
  | [] => 0
  | v :: rest => max v.depth (depthOfItems rest)

def depthOfMembers : List (String × Json) → Nat
  | [] => 0
  | (_, v) :: rest => max v.depth (depthOfMembers rest)

end

mutual

/-- Whether every part of the document has a value. -/
def isReadable : Json → Bool
  | array items => areReadable items
  | object members => haveReadableValues members
  | unreadable => false
  | _ => true

def areReadable : List Json → Bool
  | [] => true
  | v :: rest => v.isReadable && areReadable rest

def haveReadableValues : List (String × Json) → Bool
  | [] => true
  | (_, v) :: rest => v.isReadable && haveReadableValues rest

end

/-- The last value written for a key. -/
def get? (members : List (String × Json)) (key : String) : Option Json :=
  members.reverse.lookup key

end Json

end IndexerTypes
