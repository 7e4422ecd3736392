import IndexerTypes.Number

/-! The values that documents stand for. Pairs of a mapping are kept in order. -/

namespace IndexerTypes.Yaml

inductive Value where
  | null
  | bool (b : Bool)
  | number (n : Number)
  | text (s : String)
  | sequence (items : List Value)
  | mapping (pairs : List (Value × Value))
  /-- A value with a tag of the document's own. -/
  | tagged (tag : String) (content : Value)

/-- The number that is no number counts as equal to itself. -/
def sameNumber : Number → Number → Bool
  | .natural m, .natural n => m == n
  | .negative m, .negative n => m == n
  | .real x, .real y => x == y || (x.isNaN && y.isNaN)
  | _, _ => false

/-- A tag without the mark in front. -/
def tagName (tag : String) : List Char :=
  match tag.toList with
  | '!' :: c :: rest => c :: rest
  | s => s

namespace Value

mutual

/-- Whether two values are equal as keys. The order of pairs does not count. -/
def same : Value → Value → Bool
  | null, null => true
  | bool a, bool b => a == b
  | number m, number n => sameNumber m n
  | text s, text t => s == t
  | sequence items, sequence others => sameItems items others
  | mapping pairs, mapping others => pairs.length == others.length && within pairs others
  | tagged tag content, tagged other content' =>
    tagName tag == tagName other && same content content'
  | _, _ => false

def sameItems : List Value → List Value → Bool
  | [], [] => true
  | v :: rest, w :: others => same v w && sameItems rest others
  | _, _ => false

/-- Whether each pair stands among the others. -/
def within : List (Value × Value) → List (Value × Value) → Bool
  | [], _ => true
  | (k, v) :: rest, others => others.any (fun o => same k o.1 && same v o.2) && within rest others

end

/-- The value without the tags around it. -/
def untagged : Value → Value
  | tagged _ content => content.untagged
  | v => v

/-- Whether no key stands twice. -/
def distinctKeys : List (Value × Value) → Bool
  | [] => true
  | (k, _) :: rest => rest.all (fun p => !same k p.1) && distinctKeys rest

/-- What a mapping holds for a text. -/
def get? (v : Value) (key : String) : Option Value :=
  match v.untagged with
  | mapping pairs => (pairs.find? fun p => same p.1 (text key)).map Prod.snd
  | _ => none

def text? (v : Value) : Option String :=
  match v.untagged with
  | text s => some s
  | _ => none

end Value

end IndexerTypes.Yaml
