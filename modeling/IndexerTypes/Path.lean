/-! Paths as texts. A path is kept as it was written; its components, in which `.` inside
the path and repeated slashes do not count, say when two paths are the same. -/

namespace IndexerTypes

structure Path where
  text : String
  deriving DecidableEq, Repr

namespace Path

inductive Component where
  | root
  /-- A `.` that opens a relative path. -/
  | here
  | up
  | name (text : String)
  deriving DecidableEq, Repr

def startsAtRoot (p : Path) : Bool := p.text.toList.head? == some '/'

def endsWithSlash (p : Path) : Bool := p.text.toList.getLast? == some '/'

/-- A relative path is put behind the base and a slash; an absolute one stands alone. -/
def join (base rel : Path) : Path :=
  if rel.startsAtRoot then rel
  else if base.text.isEmpty || base.endsWithSlash then ⟨base.text ++ rel.text⟩
  else ⟨base.text ++ "/" ++ rel.text⟩

def pieces (p : Path) : List (List Char) := p.text.toList.splitOn '/'

/-- The names between slashes, `.` and `..` among them. -/
def segments (p : Path) : List String :=
  (p.pieces.filter (· ≠ [])).map String.ofList

/-- A segment as a component; `.` is none. -/
def componentOf? (segment : String) : Option Component :=
  if segment = "." then none
  else if segment = ".." then some .up
  else some (.name segment)

def components (p : Path) : List Component :=
  let below := p.segments.filterMap componentOf?
  if p.startsAtRoot then .root :: below
  else if p.pieces.head? = some ['.'] then .here :: below
  else below

/-- Two spellings of one path. -/
def Same (p q : Path) : Prop := p.components = q.components

instance (p q : Path) : Decidable (Same p q) :=
  inferInstanceAs (Decidable (p.components = q.components))

def fileName? (p : Path) : Option String :=
  match p.components.getLast? with
  | some (.name text) => some text
  | _ => none

def renderComponent : Component → String
  | .root => ""
  | .here => "."
  | .up => ".."
  | .name text => text

def ofComponents : List Component → Path
  | [.root] => ⟨"/"⟩
  | parts => ⟨"/".intercalate (parts.map renderComponent)⟩

/-- The path itself and the directories above it, nearest first, without the root of the
tree and without the empty path. -/
def ancestors (p : Path) : List Path :=
  let parts := p.components
  let above := (parts.length - 1).fold (fun k _ found => ofComponents (parts.take (k + 1)) :: found) []
  match parts with
  | [] => []
  | [.root] => []
  | .root :: _ => p :: above.dropLast
  | _ => p :: above

/-- Leading `./` is dropped, however often it stands there. -/
def withoutDotSlash : List Char → List Char
  | '.' :: '/' :: rest => withoutDotSlash rest
  | s => s

end Path

end IndexerTypes
