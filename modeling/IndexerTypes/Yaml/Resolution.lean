import IndexerTypes.Yaml.Grammar
import IndexerTypes.Yaml.Plain
import IndexerTypes.Yaml.Value

/-! From nodes to values. References are followed, but only so often and so deep, since
they can make a short document stand for an endless value. -/

namespace IndexerTypes.Yaml

/-- A tree together with the nodes that references lead to. -/
structure Document where
  root : Node
  anchors : List (Nat × Node)

namespace Document

def ofNode (root : Node) : Document := ⟨root, root.anchored⟩

/-- Of the nodes with one number, the last. -/
def anchored? (d : Document) (number : Nat) : Option Node := d.anchors.reverse.lookup number

def maxFollows (d : Document) : Nat := d.root.size * 100

/-- Collections that are read nest at most this deep. -/
def maxDepth : Nat := 128

/-- A reading that may still follow a number of references. -/
abbrev Reader (α : Type) := StateT Nat Option α

/-- The node itself, or the one that a reference leads to. -/
def follow (d : Document) : Node → Reader Node
  | .reference number => do
    let left ← get
    if left = 0 then failure
    else
      set (left - 1)
      match d.anchored? number with
      | some n => pure n
      | none => failure
  | n => pure n

def standardTag (name : String) : Tag := Grammar.bytesOf ("tag:yaml.org,2002:" ++ name)

def isLocal (tag : Tag) : Bool := tag.head? == some (UInt8.ofNat '!'.toNat)

/-- The name of a tag that only this document knows. -/
def localName? (tag : Tag) : Option String :=
  if isLocal tag then
    String.fromUTF8? (if tag.length > 1 then tag.drop 1 else tag).toByteArray
  else none

def plainValue? (s : String) : Option Value :=
  match Plain.meaning s with
  | .null => some .null
  | .bool b => some (.bool b)
  | .number n => some (.number n)
  | .oversized => none
  | .text => some (.text s)

def untaggedScalar? (isPlain : Bool) (s : String) : Option Value :=
  if isPlain then plainValue? s else some (.text s)

def intValue? (s : String) : Option Value :=
  match Plain.readInt? s.toList with
  | some (.number n) => some (.number n)
  | _ => none

/-- A scalar under a tag. The standard tags ask for a form of the text. -/
def taggedScalar? (tag : Tag) (isPlain : Bool) (s : String) : Option Value :=
  match localName? tag with
  | some name => (untaggedScalar? isPlain s).map (.tagged name)
  | none =>
    if tag = standardTag "bool" then (Plain.readBool? s).map .bool
    else if tag = standardTag "int" then intValue? s
    else if tag = standardTag "float" then (Plain.readFloat? s).map fun x => .number (.real x)
    else if tag = standardTag "null" then (if Plain.isNullWord s then some .null else none)
    else if isLocal tag then untaggedScalar? isPlain s
    else some (.text s)

def scalarValue? (p : Properties) (isPlain : Bool) (s : String) : Option Value :=
  match p.tag with
  | some tag => taggedScalar? tag isPlain s
  | none => untaggedScalar? isPlain s

def withTag (p : Properties) (v : Value) : Value :=
  match p.tag.bind localName? with
  | some name => .tagged name v
  | none => v

/-- The value of a node in which collections nest at most `depth` deep. -/
def value (d : Document) : Nat → Node → Reader Value
  | 0, n => do
    match ← d.follow n with
    | .scalar p isPlain s => (scalarValue? p isPlain s : Option Value)
    | _ => failure
  | depth + 1, n => do
    match ← d.follow n with
    | .scalar p isPlain s => (scalarValue? p isPlain s : Option Value)
    | .sequence p items => do
      let items ← items.mapM (value d depth)
      pure (withTag p (.sequence items))
    | .mapping p pairs => do
      let pairs ← pairs.mapM fun (k, v) => do pure (← value d depth k, ← value d depth v)
      if Value.distinctKeys pairs then pure (withTag p (.mapping pairs)) else failure
    | .reference _ => failure

/-- The text of a scalar, however it is written. -/
def text (d : Document) (n : Node) : Reader String := do
  match ← d.follow n with
  | .scalar _ _ s => pure s
  | _ => failure

/-- The pairs of a mapping; where nothing is written there are none. -/
def pairs (d : Document) (n : Node) : Reader (List (Node × Node)) := do
  match ← d.follow n with
  | .mapping _ pairs => pure pairs
  | .scalar _ true "" => pure []
  | _ => failure

/-- The items of a sequence; where nothing is written there are none. -/
def items (d : Document) (n : Node) : Reader (List Node) := do
  match ← d.follow n with
  | .sequence _ items => pure items
  | .scalar _ true "" => pure []
  | _ => failure

/-- The node, or nothing where it stands for nothing. -/
def optional (d : Document) (n : Node) : Reader (Option Node) := do
  match ← d.follow n with
  | .scalar p isPlain s =>
    let n := Node.scalar p isPlain s
    if !isPlain then pure (some n)
    else
      match p.tag with
      | some tag =>
        if tag = standardTag "null" then (if Plain.isNullWord s then pure none else failure)
        else pure (some n)
      | none => pure (if s.isEmpty || Plain.isNullWord s then none else some n)
  | n => pure (some n)

end Document

end IndexerTypes.Yaml
