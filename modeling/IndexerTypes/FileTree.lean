import IndexerTypes.Path

/-! A tree of files and directories and what programs do to it. Each operation answers with the
error that the system would give. -/

namespace IndexerTypes

inductive FileError where
  | notFound
  | notDirectory
  | isDirectory
  | alreadyExists
  | nameTooLong
  | nulInName
  | notRegularFile
  | notUtf8
  deriving DecidableEq, Repr

def FileError.message : FileError → String
  | .notFound => "No such file or directory (os error 2)"
  | .notDirectory => "Not a directory (os error 20)"
  | .isDirectory => "Is a directory (os error 21)"
  | .alreadyExists => "File exists (os error 17)"
  | .nameTooLong => "File name too long (os error 36)"
  | .nulInName => "file name contained an unexpected NUL byte"
  | .notRegularFile =>
    "the source path is neither a regular file nor a symlink to a regular file"
  | .notUtf8 => "stream did not contain valid UTF-8"

/-- The names on the way from the root of the tree. -/
abbrev Location := List String

inductive Entry where
  | directory
  | file (content : ByteArray)

instance : DecidableEq Entry
  | .directory, .directory => isTrue rfl
  | .directory, .file _ => isFalse nofun
  | .file _, .directory => isFalse nofun
  | .file content, .file other =>
    match ByteArray.decEq content other with
    | isTrue same => isTrue (congrArg Entry.file same)
    | isFalse differ => isFalse fun same => differ (Entry.file.inj same)

/-- Each entry has one place: there are no symbolic links and no hard links. A file is its bytes.
Permissions are outside of the tree, so every file may be read and written, and a copy of a file
is a copy of its bytes, whatever else a file system takes along. -/
structure FileTree where
  workingDirectory : Location
  entries : List (Location × Entry)

namespace FileTree

/-- The entry at a location. The root of the tree is always a directory. -/
def entryAt? (t : FileTree) (l : Location) : Option Entry :=
  if l = [] then some .directory else t.entries.lookup l

/-- Puts an entry in the place of the one at this location, or behind all others. -/
def put (l : Location) (e : Entry) : List (Location × Entry) → List (Location × Entry)
  | [] => [(l, e)]
  | (k, old) :: rest => if k = l then (l, e) :: rest else (k, old) :: put l e rest

def set (t : FileTree) (l : Location) (e : Entry) : FileTree :=
  { t with entries := put l e t.entries }

theorem lookup_put (l k : Location) (e : Entry) (entries : List (Location × Entry)) :
    (put l e entries).lookup k = if k = l then some e else entries.lookup k := by
  have miss {a b : Location} (h : a ≠ b) : (a == b) = false := by simpa using h
  induction entries with
  | nil =>
    by_cases h : k = l
    · simp [put, h]
    · simp [put, List.lookup_cons, miss h, h]
  | cons head rest ih =>
    obtain ⟨m, old⟩ := head
    by_cases hm : m = l
    · by_cases hk : k = l
      · simp [put, hm, hk]
      · simp [put, hm, List.lookup_cons, miss hk, hk]
    · by_cases hk : k = m
      · subst hk
        simp [put, hm]
      · simp [put, hm, List.lookup_cons, miss hk, ih]

theorem entryAt?_set (t : FileTree) {l : Location} (hl : l ≠ []) (e : Entry) (k : Location) :
    (t.set l e).entryAt? k = if k = l then some e else t.entryAt? k := by
  unfold entryAt? set
  by_cases hk : k = []
  · subst hk
    simp [Ne.symm hl]
  · simp [hk, lookup_put]

/-- One step of a walk through the tree, from a directory to what one of its names means. -/
def enter (t : FileTree) (place : Location) (segment : String) : Except FileError Location :=
  match t.entryAt? place with
  | none => .error .notFound
  | some (.file _) => .error .notDirectory
  | some .directory =>
    if segment = "." then .ok place
    else if segment = ".." then .ok place.dropLast
    else if segment.utf8ByteSize > 255 then .error .nameTooLong
    else .ok (place ++ [segment])

/-- The location that a path names. Its last name need not exist. -/
def resolve (t : FileTree) (p : Path) : Except FileError Location :=
  if p.text.toList.contains '\x00' then .error .nulInName
  else if p.text.isEmpty then .error .notFound
  else if p.text.utf8ByteSize ≥ 4096 then .error .nameTooLong
  else p.segments.foldlM t.enter (if p.startsAtRoot then [] else t.workingDirectory)

/-- The location and the entry that a path names. -/
def find (t : FileTree) (p : Path) : Except FileError (Location × Entry) := do
  let l ← t.resolve p
  match t.entryAt? l with
  | none => .error .notFound
  | some .directory => .ok (l, .directory)
  | some (.file content) =>
    if p.endsWithSlash then .error .notDirectory else .ok (l, .file content)

def isFile (t : FileTree) (p : Path) : Bool :=
  match t.find p with
  | .ok (_, .file _) => true
  | _ => false

def isDirectory (t : FileTree) (p : Path) : Bool :=
  match t.find p with
  | .ok (_, .directory) => true
  | _ => false

/-- Whether both paths lead to one existing entry. -/
def sameEntry (t : FileTree) (p q : Path) : Bool :=
  match t.find p, t.find q with
  | .ok (l, _), .ok (k, _) => l = k
  | _, _ => false

def readBytes (t : FileTree) (p : Path) : Except FileError ByteArray := do
  match ← t.find p with
  | (_, .directory) => .error .isDirectory
  | (_, .file content) => .ok content

def readText (t : FileTree) (p : Path) : Except FileError String := do
  match String.fromUTF8? (← t.readBytes p) with
  | some text => .ok text
  | none => .error .notUtf8

/-- Replaces the content of a file or makes a new file. -/
def writeBytes (t : FileTree) (p : Path) (content : ByteArray) : Except FileError FileTree := do
  let l ← t.resolve p
  if p.endsWithSlash then .error .isDirectory
  else
    match t.entryAt? l with
    | some .directory => .error .isDirectory
    | _ => .ok (t.set l (.file content))

def writeText (t : FileTree) (p : Path) (text : String) : Except FileError FileTree :=
  t.writeBytes p text.toUTF8

/-- Copies the bytes of a file over another file or into a new one. -/
def copy (t : FileTree) (source target : Path) : Except FileError FileTree := do
  match ← t.find source with
  | (_, .directory) => .error .notRegularFile
  | (_, .file content) => t.writeBytes target content

/-- Makes one directory in a directory that exists. -/
def makeDirectory (t : FileTree) (p : Path) : Except FileError FileTree := do
  let l ← t.resolve p
  match t.entryAt? l with
  | some _ => .error .alreadyExists
  | none => .ok (t.set l .directory)

/-- Makes the first of some directories, each inside the next, and those of the others that
are missing. What was made before an error stays. -/
def makeNested (t : FileTree) : List Path → FileTree × Except FileError Unit
  | [] => (t, .ok ())
  | p :: above =>
    match t.makeDirectory p with
    | .ok made => (made, .ok ())
    | .error .alreadyExists =>
      (t, if t.isDirectory p then .ok () else .error .alreadyExists)
    | .error .notFound =>
      match t.makeNested above with
      | (grown, .error e) => (grown, .error e)
      | (grown, .ok _) =>
        match grown.makeDirectory p with
        | .ok made => (made, .ok ())
        | .error .alreadyExists =>
          (grown, if grown.isDirectory p then .ok () else .error .alreadyExists)
        | .error e => (grown, .error e)
    | .error e => (t, .error e)

/-- Makes a directory with all that are missing above it. -/
def makeDirectories (t : FileTree) (p : Path) : FileTree × Except FileError Unit :=
  t.makeNested p.ancestors

end FileTree

end IndexerTypes
