import IndexerTypes.Proofs.Text.Layout
import IndexerTypes.Stub

/-! # Reading stubs and the index

A stub says three times which events it is for: by the types that it imports, by the constants that
it declares, each of the type that belongs to it, and by the keys of the object that it exports,
each with the constant that belongs to it. The index says twice which sources there are. Each
section has a reader of its own, and it gives back the names in their order (`decode_file`,
`decodeIndex_index`). -/

namespace IndexerTypes.Stub

open Text

/-! ## The reader -/

/-- What the sections of a stub say: a source and its events, or only the events. -/
structure View where
  /-- Nothing, if the stub imports nothing. -/
  imported : Option (String × List String)
  constants : List String
  exported : String × List String
  deriving DecidableEq, Repr

/-- What the sections of the index say. -/
structure IndexView where
  imported : List String
  exported : List String
  deriving DecidableEq, Repr

/-- The constant that handles an event. -/
def constantName (event : String) : String := "handle" ++ event

/-- The events of imported types, and the words behind the types. -/
def readTypes? : List String → Option (List String × List String)
  | [] => none
  | word :: rest =>
    match dropEnd? "Handler," word with
    | some event => (readTypes? rest).map fun (events, rest) => (event :: events, rest)
    | none => (dropEnd? "Handler" word).map fun event => ([event], rest)

def readPlace? (word : String) : Option String :=
  (dropStart? "\"../generated/" word).bind (dropEnd? "\";")

/-- The words of an import behind `import`. -/
def readImport? : List String → Option (String × List String)
  | "type" :: "\x7b" :: words =>
    match readTypes? words with
    | some (events, ["\x7d", "from", place]) => (readPlace? place).map (·, events)
    | _ => none
  | _ => none

/-- The import, if there is one, and the lines below. -/
def readImports? : List (List String) → Option (Option (String × List String) × List (List String))
  | ("import" :: words) :: [""] :: rest => (readImport? words).map fun found => (some found, rest)
  | lines => some (none, lines)

/-- The event of a constant that has the type of its handlers. -/
def readConstant? : List String → Option String
  | ["const", name, type, "=", "async", "(event,", "context)", "=>", "\x7b"] => do
    let event ← (dropStart? "handle" name).bind (dropEnd? ":")
    if type = handlerType event then pure event else none
  | _ => none

/-- A handler that returns at once, and the empty line below. -/
def handlerBody : List (List String) := [["", "", "return;"], ["\x7d;"], [""]]

def readConstants : List (List String) → List String × List (List String)
  | head :: first :: second :: third :: rest =>
    match readConstant? head with
    | some event =>
      if [first, second, third] = handlerBody then
        (event :: (readConstants rest).1, (readConstants rest).2)
      else ([], head :: first :: second :: third :: rest)
    | none => ([], head :: first :: second :: third :: rest)
  | lines => ([], lines)

/-- The lines of an object behind its first, where each key has the value that belongs to it. -/
def readEntries? (value : String → String) : List (List String) → Option (List String)
  | [["\x7d;"], [""]] => some []
  | ["", "", name, bound] :: rest => do
    let key ← dropEnd? ":" name
    if bound = value key ++ "," then pure (key :: (← readEntries? value rest)) else none
  | _ => none

/-- An object, from the bracket on. -/
def readObject? (value : String → String) : List (List String) → Option (List String)
  | [["\x7b\x7d;"], [""]] => some []
  | ["\x7b"] :: rest => readEntries? value rest
  | _ => none

def readExport? : List (List String) → Option (String × List String)
  | ("export" :: "const" :: source :: "=" :: words) :: rest =>
    (readObject? constantName (words :: rest)).map (source, ·)
  | _ => none

def decode (text : String) : Option View := do
  let (imported, rest) ← readImports? (readLayout text)
  let exported ← readExport? (readConstants rest).2
  pure ⟨imported, (readConstants rest).1, exported⟩

/-- The source that a line of the index imports from its own module. -/
def readSource? : List String → Option String
  | ["import", "\x7b", source, "\x7d", "from", place] =>
    if place = "\"./" ++ source ++ "\";" then some source else none
  | _ => none

def readSources : List (List String) → List String × List (List String)
  | [] => ([], [])
  | words :: rest =>
    match readSource? words with
    | some source => (source :: (readSources rest).1, (readSources rest).2)
    | none => ([], words :: rest)

/-- The default export, below an empty line if there are imports. -/
def readDefault? (sources : List String) : List (List String) → Option (List String)
  | ("export" :: "default" :: words) :: rest =>
    if sources = [] then readObject? id (words :: rest) else none
  | [""] :: ("export" :: "default" :: words) :: rest =>
    if sources = [] then none else readObject? id (words :: rest)
  | _ => none

def decodeIndex (text : String) : Option IndexView := do
  let (sources, rest) := readSources (readLayout text)
  let exported ← readDefault? sources rest
  pure ⟨sources, exported⟩

/-! ## The text in lines of words -/

variable {source event : String} {events names : List String}

/-- Imported types, with commas between them. -/
def typeWords : List String → List String
  | [] => []
  | [event] => [handlerType event]
  | event :: next :: rest => (handlerType event ++ ",") :: typeWords (next :: rest)

def placeWord (source : String) : String := "\"../generated/" ++ source ++ "\";"

def importWords (source : String) (events : List String) : List String :=
  ["import", "type", "\x7b"] ++ typeWords events ++ ["\x7d", "from", placeWord source]

def importLines (source : String) (events : List String) : List (List String) :=
  if events = [] then [] else [importWords source events, [""]]

def constantWords (event : String) : List String :=
  ["const", constantName event ++ ":", handlerType event, "=", "async", "(event,", "context)", "=>",
    "\x7b"]

def constantLines (event : String) : List (List String) := constantWords event :: handlerBody

def entryWords (value : String → String) (key : String) : List String :=
  ["", "", key ++ ":", value key ++ ","]

/-- An object with these keys, behind some words on its first line. -/
def objectLines (value : String → String) (start keys : List String) : List (List String) :=
  if keys = [] then [start ++ ["\x7b\x7d;"]]
  else (start ++ ["\x7b"]) :: (keys.map (entryWords value) ++ [["\x7d;"]])

def exportLines (source : String) (events : List String) : List (List String) :=
  objectLines constantName ["export", "const", source, "="] events

def stubLines (source : String) (events : List String) : List (List String) :=
  importLines source events ++ events.flatMap constantLines ++ exportLines source events

def sourceWords (source : String) : List String :=
  ["import", "\x7b", source, "\x7d", "from", "\"./" ++ source ++ "\";"]

def blankLines (names : List String) : List (List String) := if names = [] then [] else [[""]]

def indexLines (names : List String) : List (List String) :=
  names.map sourceWords ++ blankLines names ++ objectLines id ["export", "default"] names

theorem lineText_typeWords (events : List String) :
    lineText (typeWords events) = ", ".intercalate (events.map handlerType) := by
  induction events with
  | nil => rfl
  | cons event rest ih =>
    cases rest with
    | nil => rfl
    | cons next rest =>
      have hwords : ∃ word words, typeWords (next :: rest) = word :: words := by
        cases rest <;> exact ⟨_, _, rfl⟩
      obtain ⟨word, words, hw⟩ := hwords
      rw [typeWords, lineText, hw, String.intercalate_cons_cons, ← hw, ← lineText, ih]
      simp only [List.map_cons, String.intercalate_cons_cons, String.append_assoc]
      rfl

theorem typeWords_ne_nil (h : events ≠ []) : typeWords events ≠ [] := by
  match events with
  | [] => exact absurd rfl h
  | [_] => exact List.cons_ne_nil _ _
  | _ :: _ :: _ => exact List.cons_ne_nil _ _

theorem lineText_importWords (h : events ≠ []) : lineText (importWords source events) =
    (TypeScript.ModuleImport.mk (events.map handlerType) (typesModule source)).render := by
  have hnone := typeWords_ne_nil h
  have hstart : ["import", "type", "\x7b"] ++ typeWords events ≠ [] := List.cons_ne_nil _ _
  rw [importWords, lineText, String.intercalate_append_of_ne_nil hstart (List.cons_ne_nil _ _),
    String.intercalate_append_of_ne_nil (List.cons_ne_nil _ _) hnone, ← lineText, ← lineText,
    ← lineText, lineText_typeWords]
  unfold TypeScript.ModuleImport.render placeWord
  simp only [lineText, typesModule, String.intercalate_cons_cons, String.intercalate_singleton,
    String.append_assoc]
  rfl

theorem layoutText_importLines (source : String) (events : List String) :
    layoutText (importLines source events) = importSection source events := by
  unfold importLines importSection
  cases events with
  | nil => rfl
  | cons event rest =>
    rw [if_neg (List.cons_ne_nil _ _), layoutText_cons, lineText_importWords (List.cons_ne_nil _ _)]
    simp only [List.isEmpty_cons, Bool.false_eq_true, if_false, String.append_assoc]
    rfl

theorem layoutText_constantLines (event : String) :
    layoutText (constantLines event) = constant event := by
  unfold constant
  simp only [layoutText, lineText, constantLines, constantWords, handlerBody, constantName,
    List.map_cons, List.map_nil, String.join_cons, String.join_nil, String.intercalate_cons_cons,
    String.intercalate_singleton, String.append_assoc]
  rfl

theorem layoutText_sourceWords (source : String) :
    layoutText [sourceWords source] = importLine source := by
  simp only [layoutText, lineText, sourceWords, importLine, List.map_cons, List.map_nil,
    String.join_cons, String.join_nil, String.intercalate_cons_cons,
    String.intercalate_singleton, String.append_assoc]
  rfl

/-- A key and its value, as an object shows them. -/
def entryText (value : String → String) (key : String) : String :=
  "  " ++ key ++ ": " ++ value key ++ ",\n"

theorem layoutText_entryWords (value : String → String) (key : String) :
    layoutText [entryWords value key] = entryText value key := by
  simp only [layoutText, lineText, entryWords, entryText, List.map_cons, List.map_nil,
    String.join_cons, String.join_nil, String.intercalate_cons_cons,
    String.intercalate_singleton, String.append_assoc]
  rfl

theorem layoutText_flatMap (lines : String → List (List String)) (names : List String) :
    layoutText (names.flatMap lines) =
      String.join (names.map fun name => layoutText (lines name)) := by
  induction names with
  | nil => rfl
  | cons name rest ih =>
    rw [List.flatMap_cons, layoutText_append, ih, List.map_cons, String.join_cons]

theorem layoutText_map (words : String → List String) (names : List String) :
    layoutText (names.map words) = String.join (names.map fun name => layoutText [words name]) := by
  rw [← layoutText_flatMap]
  exact congrArg layoutText (List.flatMap_pure_eq_map words names).symm

/-- An object as it is written, behind its start. -/
theorem layoutText_objectLines (value : String → String) {start : List String} (hs : start ≠ [])
    (keys : List String) : layoutText (objectLines value start keys) =
      lineText start ++ if keys = [] then " \x7b\x7d;\n"
        else " \x7b\n" ++ String.join (keys.map (entryText value)) ++ "\x7d;\n" := by
  have hline : ∀ word, lineText (start ++ [word]) = lineText start ++ " " ++ word := by
    intro word
    exact String.intercalate_append_of_ne_nil hs (List.cons_ne_nil _ _)
  unfold objectLines
  split
  · rw [layoutText_cons, hline]
    simp only [String.append_assoc]
    rfl
  · rw [layoutText_cons, layoutText_append, hline, layoutText_map]
    simp only [layoutText_entryWords, String.append_assoc]
    rfl

theorem keyLine_eq : keyLine = entryText constantName := by
  funext event
  simp only [keyLine, entryText, constantName, String.append_assoc]
  rfl

theorem layoutText_exportLines (source : String) (events : List String) :
    layoutText (exportLines source events) = exportSection source events := by
  rw [exportLines, layoutText_objectLines _ (List.cons_ne_nil _ _), exportSection, keyLine_eq]
  cases events with
  | nil =>
    simp only [lineText, String.intercalate_cons_cons, String.intercalate_singleton,
      String.append_assoc]
    rfl
  | cons event rest =>
    simp only [lineText, reduceCtorEq, List.isEmpty_cons, Bool.false_eq_true, if_false,
      String.intercalate_cons_cons, String.intercalate_singleton, String.append_assoc]
    rfl

theorem content_file (source : String) (events : List String) :
    (file source events).content = layoutText (stubLines source events) := by
  rw [stubLines, layoutText_append, layoutText_append, layoutText_importLines, layoutText_flatMap,
    layoutText_exportLines]
  simp only [layoutText_constantLines]
  rfl

theorem content_index (names : List String) :
    (index names).content = layoutText (indexLines names) := by
  rw [indexLines, layoutText_append, layoutText_append, layoutText_map,
    layoutText_objectLines _ (List.cons_ne_nil _ _)]
  simp only [layoutText_sourceWords, index]
  cases names with
  | nil => rfl
  | cons name rest =>
    simp only [List.isEmpty_cons, Bool.false_eq_true, if_false, reduceCtorEq, blankLines,
      String.append_assoc]
    rfl

/-! ## Reading what was written -/

/-- A source and its events, all of them identifiers. -/
structure Named (source : String) (events : List String) : Prop where
  source : isIdentifier source = true
  events : ∀ event ∈ events, isIdentifier event = true

theorem comma_not_mem_handlerType (h : isIdentifier event = true) :
    ',' ∉ (handlerType event).toList := by
  have hname : ',' ∉ event.toList := not_mem_of_isIdentifier h rfl
  have hending : ',' ∉ "Handler".toList := by decide
  rw [handlerType, String.toList_append, List.mem_append]
  exact not_or_intro hname hending

theorem readTypes?_typeWords (hnone : events ≠ [])
    (h : ∀ event ∈ events, isIdentifier event = true) (rest : List String) :
    readTypes? (typeWords events ++ rest) = some (events, rest) := by
  induction events with
  | nil => exact absurd rfl hnone
  | cons event more ih =>
    obtain ⟨hevent, hmore⟩ := List.forall_mem_cons.mp h
    cases more with
    | nil =>
      -- no comma is behind the last type, and none can be in a name
      have hlast : dropEnd? "Handler," (handlerType event) = none :=
        dropEnd?_eq_none (c := ',') (by decide) (comma_not_mem_handlerType hevent)
      show readTypes? (handlerType event :: rest) = _
      rw [readTypes?, hlast, handlerType, dropEnd?_append]
      rfl
    | cons next more =>
      have hfirst : dropEnd? "Handler," (handlerType event ++ ",") = some event := by
        rw [handlerType, String.append_assoc]
        exact dropEnd?_append event "Handler,"
      show readTypes? ((handlerType event ++ ",") :: (typeWords (next :: more) ++ rest)) = _
      rw [readTypes?, hfirst, ih (List.cons_ne_nil _ _) hmore]
      rfl

theorem readPlace?_placeWord (source : String) : readPlace? (placeWord source) = some source := by
  unfold readPlace? placeWord
  rw [String.append_assoc, dropStart?_append]
  exact dropEnd?_append source "\";"

theorem readImport?_importWords (hnone : events ≠ [])
    (h : ∀ event ∈ events, isIdentifier event = true) (source : String) :
    readImport? (importWords source events).tail = some (source, events) := by
  show readImport?
    ("type" :: "\x7b" :: (typeWords events ++ ["\x7d", "from", placeWord source])) = _
  rw [readImport?, readTypes?_typeWords hnone h]
  show (readPlace? (placeWord source)).map _ = _
  rw [readPlace?_placeWord]
  rfl

theorem readImports?_importLines (hnone : events ≠ [])
    (h : ∀ event ∈ events, isIdentifier event = true) (rest : List (List String)) :
    readImports? (importLines source events ++ rest) = some (some (source, events), rest) := by
  rw [importLines, if_neg hnone]
  show (readImport? (importWords source events).tail).map _ = _
  rw [readImport?_importWords hnone h]
  rfl

theorem readConstant?_constantWords (event : String) :
    readConstant? (constantWords event) = some event := by
  have hname : (dropStart? "handle" (constantName event ++ ":")).bind (dropEnd? ":") =
      some event := by
    rw [constantName, String.append_assoc, dropStart?_append]
    exact dropEnd?_append event ":"
  rw [constantWords, readConstant?, hname]
  exact if_pos rfl

/-- The constants end before a line that declares none. -/
theorem readConstants_of_none {words : List String} (h : readConstant? words = none)
    (rest : List (List String)) : readConstants (words :: rest) = ([], words :: rest) := by
  match rest with
  | [] | [_] | [_, _] => rfl
  | _ :: _ :: _ :: _ => rw [readConstants, h]

theorem readConstants_append {rest : List (List String)} (h : readConstants rest = ([], rest))
    (events : List String) :
    readConstants (events.flatMap constantLines ++ rest) = (events, rest) := by
  induction events with
  | nil => exact h
  | cons event more ih =>
    show readConstants (constantWords event :: ["", "", "return;"] :: ["\x7d;"] :: [""] ::
      (more.flatMap constantLines ++ rest)) = _
    rw [readConstants, readConstant?_constantWords, ih]
    rfl

theorem readEntries?_append (value : String → String) (keys : List String) :
    readEntries? value (keys.map (entryWords value) ++ [["\x7d;"], [""]]) = some keys := by
  induction keys with
  | nil => rfl
  | cons key more ih =>
    show (dropEnd? ":" (key ++ ":")).bind _ = _
    rw [dropEnd?_append, Option.bind_some, if_pos rfl]
    show (readEntries? value (more.map (entryWords value) ++ _)).bind _ = _
    rw [ih]
    rfl

theorem readObject?_entries {keys : List String} (value : String → String) :
    readObject? value (["\x7b"] :: (keys.map (entryWords value) ++ [["\x7d;"]] ++ [[""]])) =
      some keys := by
  rw [List.append_assoc]
  exact readEntries?_append value keys

theorem readExport?_exportLines (source : String) (events : List String) :
    readExport? (exportLines source events ++ [[""]]) = some (source, events) := by
  unfold exportLines objectLines
  cases events with
  | nil => rfl
  | cons event more =>
    rw [if_neg (List.cons_ne_nil _ _)]
    show (readObject? constantName (["\x7b"] :: (_ ++ _ ++ [[""]]))).map _ = _
    rw [readObject?_entries]
    rfl

theorem readSources_append {rest : List (List String)} (h : readSources rest = ([], rest))
    (names : List String) : readSources (names.map sourceWords ++ rest) = (names, rest) := by
  induction names with
  | nil => exact h
  | cons name more ih =>
    have hread : readSource? (sourceWords name) = some name := if_pos rfl
    show readSources (sourceWords name :: (more.map sourceWords ++ rest)) = _
    rw [readSources, hread, ih]

/-! ## Lines of words -/

theorem isWord_handlerType (h : isIdentifier event = true) : IsWord (handlerType event) :=
  (isWord_of_isIdentifier h).append (by decide)

theorem isWord_constantName (h : isIdentifier event = true) : IsWord (constantName event) :=
  IsWord.append (by decide) (isWord_of_isIdentifier h)

theorem isLine_typeWords (hnone : events ≠ []) (h : ∀ event ∈ events, isIdentifier event = true) :
    IsLine (typeWords events) := by
  induction events with
  | nil => exact absurd rfl hnone
  | cons event more ih =>
    obtain ⟨hevent, hmore⟩ := List.forall_mem_cons.mp h
    cases more with
    | nil => exact IsLine.singleton (isWord_handlerType hevent)
    | cons next more =>
      have hfirst : IsWord (handlerType event ++ ",") :=
        (isWord_handlerType hevent).append (by decide)
      exact IsLine.cons hfirst (ih (List.cons_ne_nil _ _) hmore)

theorem isLine_importLines (h : Named source events) :
    ∀ words ∈ importLines source events, IsLine words := by
  have hplace : IsWord (placeWord source) :=
    (IsWord.append (by decide) (isWord_of_isIdentifier h.source)).append (by decide)
  have hfrom : IsLine (["\x7d", "from"] ++ [placeWord source]) :=
    IsLine.append (by decide) (IsLine.singleton hplace)
  by_cases hnone : events = []
  · rw [importLines, if_pos hnone]
    exact List.forall_mem_nil _
  · have htypes := isLine_typeWords hnone h.events
    rw [importLines, if_neg hnone]
    exact List.forall_mem_cons.mpr
      ⟨(IsLine.append (by decide) htypes).append hfrom, by decide⟩

theorem isLine_constantLines (h : isIdentifier event = true) :
    ∀ words ∈ constantLines event, IsLine words := by
  have hname : IsWord (constantName event ++ ":") := (isWord_constantName h).append (by decide)
  have htyped : IsLine [constantName event ++ ":", handlerType event] :=
    IsLine.cons hname (IsLine.singleton (isWord_handlerType h))
  have hhead : IsLine (["const"] ++ [constantName event ++ ":", handlerType event] ++
      ["=", "async", "(event,", "context)", "=>", "\x7b"]) :=
    (IsLine.append (by decide) htyped).append (by decide)
  exact List.forall_mem_cons.mpr ⟨hhead, by decide⟩

theorem isLine_entryWords {value : String → String} {key : String} (hk : isIdentifier key = true)
    (hv : IsWord (value key)) : IsLine (entryWords value key) := by
  have hname : IsWord (key ++ ":") := (isWord_of_isIdentifier hk).append (by decide)
  have hvalue : IsLine [value key ++ ","] := IsLine.singleton (hv.append (by decide))
  have hline : IsLine (["", ""] ++ [key ++ ":", value key ++ ","]) :=
    IsLine.append (by decide) (IsLine.cons hname hvalue)
  exact hline

theorem isLine_objectLines {value : String → String} {start keys : List String}
    (hs : IsLine start) (hk : ∀ key ∈ keys, isIdentifier key = true ∧ IsWord (value key)) :
    ∀ words ∈ objectLines value start keys, IsLine words := by
  unfold objectLines
  split
  · exact List.forall_mem_singleton.mpr (hs.append (by decide))
  · have hentries : ∀ words ∈ keys.map (entryWords value), IsLine words := by
      rw [List.forall_mem_map]
      exact fun key hkey => isLine_entryWords (hk key hkey).1 (hk key hkey).2
    exact List.forall_mem_cons.mpr ⟨hs.append (by decide),
      List.forall_mem_append.mpr ⟨hentries, by decide⟩⟩

theorem isLine_stubLines (h : Named source events) :
    ∀ words ∈ stubLines source events, IsLine words := by
  have hsource : IsLine [source] := IsLine.singleton (isWord_of_isIdentifier h.source)
  have hstart : IsLine (["export", "const"] ++ [source] ++ ["="]) :=
    (IsLine.append (by decide) hsource).append (by decide)
  rw [stubLines, List.forall_mem_append, List.forall_mem_append, List.forall_mem_flatMap]
  refine ⟨⟨isLine_importLines h, fun event he => isLine_constantLines (h.events event he)⟩, ?_⟩
  exact isLine_objectLines hstart fun event he =>
    ⟨h.events event he, isWord_constantName (h.events event he)⟩

theorem isLine_sourceWords {name : String} (h : isIdentifier name = true) :
    IsLine (sourceWords name) := by
  have hname := isWord_of_isIdentifier h
  have hplace : IsWord ("\"./" ++ name ++ "\";") :=
    (IsWord.append (by decide) hname).append (by decide)
  have hline : IsLine (["import", "\x7b"] ++ [name] ++ ["\x7d", "from"] ++
      ["\"./" ++ name ++ "\";"]) :=
    ((IsLine.append (by decide) (IsLine.singleton hname)).append (by decide)).append
      (IsLine.singleton hplace)
  exact hline

theorem isLine_indexLines (h : ∀ name ∈ names, isIdentifier name = true) :
    ∀ words ∈ indexLines names, IsLine words := by
  have hsources : ∀ words ∈ names.map sourceWords, IsLine words := by
    rw [List.forall_mem_map]
    exact fun name hn => isLine_sourceWords (h name hn)
  have hblank : ∀ words ∈ blankLines names, IsLine words := by
    unfold blankLines
    split <;> decide
  rw [indexLines, List.forall_mem_append, List.forall_mem_append]
  refine ⟨⟨hsources, hblank⟩, isLine_objectLines (by decide) fun name hn => ?_⟩
  exact ⟨h name hn, isWord_of_isIdentifier (h name hn)⟩

/-! ## The round trips -/

/-- The constants are followed by the object, which declares none. -/
theorem readConstants_exportLines (source : String) (events keys : List String) :
    readConstants (events.flatMap constantLines ++ (exportLines source keys ++ [[""]])) =
      (events, exportLines source keys ++ [[""]]) := by
  refine readConstants_append ?_ events
  unfold exportLines objectLines
  split <;> exact readConstants_of_none rfl _

theorem decode_file (h : Named source events) :
    decode (file source events).content =
      some ⟨if events = [] then none else some (source, events), events, (source, events)⟩ := by
  have hread : readLayout (file source events).content = stubLines source events ++ [[""]] := by
    rw [content_file, readLayout_layoutText (isLine_stubLines h)]
  by_cases hnone : events = []
  · -- only the empty object is left, so everything can be computed
    subst hnone
    rw [decode, hread]
    rfl
  · have himports : readImports? (stubLines source events ++ [[""]]) = some (some (source, events),
        events.flatMap constantLines ++ (exportLines source events ++ [[""]])) := by
      rw [stubLines, List.append_assoc, List.append_assoc]
      exact readImports?_importLines hnone h.events _
    rw [decode, hread, himports]
    show (readExport? (readConstants _).2).bind _ = _
    rw [readConstants_exportLines, readExport?_exportLines, if_neg hnone]
    rfl

theorem readDefault?_objectLines (hnone : names ≠ []) :
    readDefault? names ([""] :: (objectLines id ["export", "default"] names ++ [[""]])) =
      some names := by
  rw [objectLines, if_neg hnone]
  show (if names = [] then none
    else readObject? id (["\x7b"] :: (names.map (entryWords id) ++ [["\x7d;"]] ++ [[""]]))) = _
  rw [if_neg hnone, readObject?_entries]

theorem decodeIndex_index (h : ∀ name ∈ names, isIdentifier name = true) :
    decodeIndex (index names).content = some ⟨names, names⟩ := by
  have hread : readLayout (index names).content = indexLines names ++ [[""]] := by
    rw [content_index, readLayout_layoutText (isLine_indexLines h)]
  by_cases hnone : names = []
  · subst hnone
    rw [decodeIndex, hread]
    rfl
  · have hsources : readSources (indexLines names ++ [[""]]) =
        (names, [""] :: (objectLines id ["export", "default"] names ++ [[""]])) := by
      rw [indexLines, blankLines, if_neg hnone, List.append_assoc, List.append_assoc]
      exact readSources_append rfl names
    rw [decodeIndex, hread, hsources]
    show (readDefault? names _).bind _ = _
    rw [readDefault?_objectLines hnone]
    rfl

/-- **Stubs and indexes lose nothing.** Of identifiers, each section of a stub gives back the events
in their order, and the source where it is named; both sections of the index give back the sources.
So another source, other events or other sources make another text. -/
theorem decode_written :
    (∀ source events, Named source events →
      decode (file source events).content =
        some ⟨if events = [] then none else some (source, events), events, (source, events)⟩) ∧
    (∀ names : List String, (∀ name ∈ names, isIdentifier name = true) →
      decodeIndex (index names).content = some ⟨names, names⟩) ∧
    (∀ source events other more, Named source events → Named other more →
      (file source events).content = (file other more).content → source = other ∧ events = more) ∧
    ∀ names more : List String, (∀ name ∈ names, isIdentifier name = true) →
      (∀ name ∈ more, isIdentifier name = true) →
      (index names).content = (index more).content → names = more := by
  refine ⟨fun _ _ => decode_file, fun _ => decodeIndex_index, ?_, ?_⟩
  · intro source events other more h ho hc
    have he := decode_file h
    rw [hc, decode_file ho, Option.some_inj] at he
    exact Prod.mk.inj (congrArg View.exported he).symm
  · intro names more h ho hc
    have he := decodeIndex_index h
    rw [hc, decodeIndex_index ho, Option.some_inj] at he
    exact (congrArg IndexView.imported he).symm

theorem decode_written_token :
    (∀ event ∈ ["Transfer", "Approval"], isIdentifier event = true) ∧
    decode (file "ERC20" ["Transfer", "Approval"]).content =
      some ⟨some ("ERC20", ["Transfer", "Approval"]), ["Transfer", "Approval"],
        ("ERC20", ["Transfer", "Approval"])⟩ ∧
    decode (file "Vault" []).content = some ⟨none, [], ("Vault", [])⟩ ∧
    decodeIndex (index ["ERC20", "Vault"]).content = some ⟨["ERC20", "Vault"], ["ERC20", "Vault"]⟩ ∧
    (file "ERC20" ["Transfer", "Approval"]).content ≠
      (file "ERC20" ["Approval", "Transfer"]).content ∧
    (index ["ERC20", "Vault"]).content ≠ (index ["Vault", "ERC20"]).content := by
  obtain ⟨hfile, hindex, hfiles, hindexes⟩ := decode_written
  have htoken : Named "ERC20" ["Transfer", "Approval"] := ⟨by decide, by decide⟩
  have hswapped : Named "ERC20" ["Approval", "Transfer"] := ⟨by decide, by decide⟩
  have hempty : Named "Vault" [] := ⟨by decide, by decide⟩
  refine ⟨by decide, hfile _ _ htoken, hfile _ _ hempty, hindex _ (by decide), ?_, ?_⟩
  · intro hc
    exact absurd (hfiles _ _ _ _ htoken hswapped hc).2 (by decide)
  · intro hc
    exact absurd (hindexes _ _ (by decide) (by decide) hc) (by decide)

end IndexerTypes.Stub
