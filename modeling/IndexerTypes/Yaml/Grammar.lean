import IndexerTypes.Yaml.Layout
import IndexerTypes.Yaml.Node

/-! From tokens to the tree of a document. One token decides every choice. A text holds one
document at most. -/

namespace IndexerTypes.Yaml.Grammar

structure State where
  tokens : List Token
  /-- Anchors by name; one that is given again gets the next number. -/
  anchors : List (String × Nat)

/-- Handles and what they stand for. -/
abbrev Handles := List (String × Tag)

def bytesOf (s : String) : Tag := s.toUTF8.toList

def standardHandles : Handles := [("!", bytesOf "!"), ("!!", bytesOf "tag:yaml.org,2002:")]

def resolveTag? (handles : Handles) (t : TagText) : Option Tag :=
  if t.handle.isEmpty then some t.suffix
  else (handles.lookup t.handle).map (· ++ t.suffix)

/-- Gives an anchor its number, which counts the names before it. -/
def State.register (s : State) (name : String) : Nat × State :=
  let number := s.anchors.length
  let others := s.anchors.filter fun a => a.1 ≠ name
  (number, { s with anchors := (name, number) :: others })

def readTag? (handles : Handles) (s : State) : Option (Option Tag × State) :=
  match s.tokens with
  | .tag t :: rest => (resolveTag? handles t).map fun tag => (some tag, { s with tokens := rest })
  | _ => some (none, s)

def readAnchor (s : State) : Option Nat × State :=
  match s.tokens with
  | .anchor name :: rest =>
    let (number, s) := s.register name
    (some number, { s with tokens := rest })
  | _ => (none, s)

/-- An anchor and a tag, in either order, or one of them, or none. -/
def readProperties? (handles : Handles) (s : State) : Option (Properties × State) :=
  match s.tokens with
  | .tag _ :: _ =>
    (readTag? handles s).map fun (tag, s) =>
      let (anchor, s) := readAnchor s
      (⟨anchor, tag⟩, s)
  | _ =>
    let (anchor, s) := readAnchor s
    (readTag? handles s).map fun (tag, s) => (⟨anchor, tag⟩, s)

/-- Whether the next token is one of these. -/
def State.isAt (s : State) (marks : List Token) : Bool :=
  match s.tokens with
  | t :: _ => marks.contains t
  | [] => false

def State.drop (s : State) : State := { s with tokens := s.tokens.drop 1 }

abbrev Reader (α : Type) := State → Option (α × State)

/-- Nothing but properties stands for a scalar. -/
def bare (properties : Properties) (s : State) : Option (Node × State) :=
  if properties.anchor.isSome || properties.tag.isSome then some (.scalar properties true "", s)
  else none

mutual

/-- A node. Where `block` is false only flow style is allowed; where `indentless` is true
the entries of a sequence may stand at the column of the key before them. -/
def node (handles : Handles) (block indentless : Bool) : Nat → Reader Node
  | 0, _ => none
  | fuel + 1, s =>
    match s.tokens with
    | .reference name :: _ => (s.anchors.lookup name).map fun anchor => (.reference anchor, s.drop)
    | _ =>
      match readProperties? handles s with
      | none => none
      | some (properties, s) =>
        match s.tokens with
        | .scalar isPlain text :: _ =>
          some (.scalar properties isPlain text, s.drop)
        | .flowSequenceStart :: _ =>
          (flowItems handles true fuel s.drop).map fun (items, s) => (.sequence properties items, s)
        | .flowMappingStart :: _ =>
          (flowPairs handles true fuel s.drop).map fun (pairs, s) => (.mapping properties pairs, s)
        | t :: _ =>
          if indentless && t == .blockEntry then
            (plainItems handles fuel s).map fun (items, s) => (.sequence properties items, s)
          else if block && t == .blockSequenceStart then
            (blockItems handles fuel s.drop).map fun (items, s) => (.sequence properties items, s)
          else if block && t == .blockMappingStart then
            (blockPairs handles fuel s.drop).map fun (pairs, s) => (.mapping properties pairs, s)
          else bare properties s
        | [] => bare properties s

/-- A node, or the empty node if a token follows that cannot begin one. -/
def nodeUnless (handles : Handles) (block indentless : Bool) (marks : List Token) :
    Nat → Reader Node
  | 0, _ => none
  | fuel + 1, s =>
    if s.isAt marks then some (Node.empty, s) else node handles block indentless fuel s

/-- The value of a key, if a colon stands here. -/
def valueUnless (handles : Handles) (block indentless : Bool) (marks : List Token) :
    Nat → Reader Node
  | 0, _ => none
  | fuel + 1, s =>
    if s.isAt [.value] then nodeUnless handles block indentless marks fuel s.drop
    else some (Node.empty, s)

def blockItems (handles : Handles) : Nat → Reader (List Node)
  | 0, _ => none
  | fuel + 1, s =>
    if s.isAt [.blockEnd] then some ([], s.drop)
    else if s.isAt [.blockEntry] then
      match nodeUnless handles true false [.blockEntry, .blockEnd] fuel s.drop with
      | none => none
      | some (item, s) => (blockItems handles fuel s).map fun (items, s) => (item :: items, s)
    else none

/-- Entries without a block of their own. -/
def plainItems (handles : Handles) : Nat → Reader (List Node)
  | 0, _ => none
  | fuel + 1, s =>
    if s.isAt [.blockEntry] then
      match nodeUnless handles true false [.blockEntry, .key, .value, .blockEnd] fuel s.drop with
      | none => none
      | some (item, s) => (plainItems handles fuel s).map fun (items, s) => (item :: items, s)
    else some ([], s)

def blockPairs (handles : Handles) : Nat → Reader (List (Node × Node))
  | 0, _ => none
  | fuel + 1, s =>
    if s.isAt [.blockEnd] then some ([], s.drop)
    else if s.isAt [.key] then
      match nodeUnless handles true true [.key, .value, .blockEnd] fuel s.drop with
      | none => none
      | some (k, s) =>
        match valueUnless handles true true [.key, .value, .blockEnd] fuel s with
        | none => none
        | some (v, s) => (blockPairs handles fuel s).map fun (pairs, s) => ((k, v) :: pairs, s)
    else none

/-- A pair that is an item of a flow sequence. Where the key is missing, the token in its
place is passed over. -/
def flowPair (handles : Handles) : Nat → Reader (Node × Node)
  | 0, _ => none
  | fuel + 1, s =>
    let key :=
      if s.isAt [.value, .flowEntry, .flowSequenceEnd] then some (Node.empty, s.drop)
      else node handles false false fuel s
    match key with
    | none => none
    | some (k, s) =>
      (valueUnless handles false false [.flowEntry, .flowSequenceEnd] fuel s).map
        fun (v, s) => ((k, v), s)

/-- The items up to the closing bracket; all but the first come behind a comma. -/
def flowItems (handles : Handles) (first : Bool) : Nat → Reader (List Node)
  | 0, _ => none
  | fuel + 1, s =>
    if s.isAt [.flowSequenceEnd] then some ([], s.drop)
    else if !first && !s.isAt [.flowEntry] then none
    else
      let s := if first then s else s.drop
      if s.isAt [.flowSequenceEnd] then some ([], s.drop)
      else
        let item :=
          if s.isAt [.key] then
            (flowPair handles fuel s.drop).map
              fun (pair, s) => (Node.mapping ⟨none, none⟩ [pair], s)
          else node handles false false fuel s
        match item with
        | none => none
        | some (item, s) =>
          (flowItems handles false fuel s).map fun (items, s) => (item :: items, s)

/-- The pairs up to the closing brace; all but the first come behind a comma. -/
def flowPairs (handles : Handles) (first : Bool) : Nat → Reader (List (Node × Node))
  | 0, _ => none
  | fuel + 1, s =>
    if s.isAt [.flowMappingEnd] then some ([], s.drop)
    else if !first && !s.isAt [.flowEntry] then none
    else
      let s := if first then s else s.drop
      if s.isAt [.flowMappingEnd] then some ([], s.drop)
      else
        let pair :=
          if s.isAt [.key] then
            match nodeUnless handles false false [.value, .flowEntry, .flowMappingEnd] fuel
              s.drop with
            | none => none
            | some (k, s) =>
              (valueUnless handles false false [.flowEntry, .flowMappingEnd] fuel s).map
                fun (v, s) => ((k, v), s)
          else (node handles false false fuel s).map fun (k, s) => ((k, Node.empty), s)
        match pair with
        | none => none
        | some (pair, s) =>
          (flowPairs handles false fuel s).map fun (pairs, s) => (pair :: pairs, s)

end

/-- The directives at the start: the version at most once and of the family 1.1 or 1.2, and
each handle at most once. -/
def directives : Bool → Handles → List Token → Option (Handles × List Token)
  | versioned, handles, .version major minor :: rest =>
    if versioned || major ≠ 1 || (minor ≠ 1 && minor ≠ 2) then none
    else directives true handles rest
  | versioned, handles, .tagDirective handle expansion :: rest =>
    if handles.any fun h => h.1 == handle then none
    else directives versioned (handles ++ [(handle, expansion)]) rest
  | _, handles, rest => some (handles, rest)

/-- No document begins with this token. -/
def endsDocument : List Token → Bool
  | [] => true
  | .documentStart :: _ => true
  | .documentEnd :: _ => true
  | .version .. :: _ => true
  | .tagDirective .. :: _ => true
  | _ => false

def opensDocument : List Token → Bool
  | .documentStart :: _ => true
  | .version .. :: _ => true
  | .tagDirective .. :: _ => true
  | _ => false

def content? (handles : Handles) (tokens : List Token) : Option (Node × List Token) :=
  (node (handles ++ standardHandles) true false (4 * tokens.length + 8) ⟨tokens, []⟩).map
    fun (n, s) => (n, s.tokens)

def afterMark? (handles : Handles) : List Token → Option (Node × List Token)
  | .documentStart :: rest =>
    if endsDocument rest then some (Node.empty, rest) else content? handles rest
  | _ => none

def dropDocumentEnds : List Token → List Token
  | .documentEnd :: rest => dropDocumentEnds rest
  | rest => rest

/-- The one document that the tokens spell. -/
def document? (tokens : List Token) : Option Node := do
  let (n, rest) ←
    if opensDocument tokens then do
      let (handles, rest) ← directives false [] tokens
      afterMark? handles rest
    else content? [] tokens
  if (dropDocumentEnds rest).isEmpty then pure n else none

end IndexerTypes.Yaml.Grammar

namespace IndexerTypes.Yaml

/-- The document in a text; a text without any token is the empty document. -/
def read? (text : String) : Option Node :=
  match Layout.tokens? text.toList with
  | none => none
  | some [] => some Node.empty
  | some tokens => Grammar.document? tokens

end IndexerTypes.Yaml
