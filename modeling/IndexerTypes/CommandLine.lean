import IndexerTypes.Path
import IndexerTypes.Settings

/-! Command lines. Options come before or after a command word, long or as letters, with
their values attached or in the next argument. Arguments are taken in order, so what stands
first decides whether help is shown or the line is refused. -/

namespace IndexerTypes.CommandLine

/-- Why a command line starts no run. -/
inductive Refusal where
  | help
  | version
  | usage
  deriving DecidableEq, Repr

inductive OptionKind where
  | help
  | version
  | flag
  /-- One value, at most once. -/
  | text
  /-- One value that is not empty, at most once. -/
  | path
  /-- Values with commas between them, as often as wanted. -/
  | texts
  deriving DecidableEq, Repr

structure OptionSpec where
  name : String
  letter : Option Char
  kind : OptionKind
  deriving DecidableEq, Repr

def OptionSpec.takesValue (o : OptionSpec) : Bool :=
  match o.kind with
  | .text => true
  | .path => true
  | .texts => true
  | _ => false

/-- The names of the options that were given, with their values. -/
abbrev Given := List (String × String)

def Given.has (given : Given) (name : String) : Bool := given.any fun g => g.1 = name

def Given.value? (given : Given) (name : String) : Option String := given.lookup name

def Given.values (given : Given) (name : String) : List String :=
  (given.filter fun g => g.1 = name).map Prod.snd

def splitAtCommas (value : String) : List String :=
  (value.toList.splitOn ',').map String.ofList

/-- Takes up an option and its value; an option without value comes with the empty text. -/
def record (given : Given) (o : OptionSpec) (value : String) : Except Refusal Given :=
  match o.kind with
  | .help => .error .help
  | .version => .error .version
  | .texts => .ok (given ++ (splitAtCommas value).map fun piece => (o.name, piece))
  | .path =>
    if given.has o.name || value.isEmpty then .error .usage else .ok (given ++ [(o.name, value)])
  | _ => if given.has o.name then .error .usage else .ok (given ++ [(o.name, value)])

def named? (specs : List OptionSpec) (name : String) : Option OptionSpec :=
  specs.find? fun o => o.name = name

def lettered? (specs : List OptionSpec) (letter : Char) : Option OptionSpec :=
  specs.find? fun o => o.letter = some letter

/-- What is known after one argument: the options so far, and perhaps one that waits for
its value. -/
structure Step where
  given : Given
  waiting : Option OptionSpec

/-- The argument `--name` or `--name=value`, without its dashes. -/
def longOption (specs : List OptionSpec) (given : Given) (s : List Char) : Except Refusal Step :=
  match named? specs (String.ofList (s.takeWhile (· ≠ '='))), s.dropWhile (· ≠ '=') with
  | none, _ => .error .usage
  | some o, [] =>
    if o.takesValue then .ok ⟨given, some o⟩
    else do pure ⟨← record given o "", none⟩
  | some o, _ :: value =>
    if o.takesValue then do pure ⟨← record given o (String.ofList value), none⟩
    else .error .usage

/-- Letters behind one dash. The first letter that takes a value ends them. -/
def letters (specs : List OptionSpec) (given : Given) : List Char → Except Refusal Step
  | [] => .ok ⟨given, none⟩
  | c :: rest =>
    match lettered? specs c with
    | none => .error .usage
    | some o =>
      if o.takesValue then
        match rest with
        | [] => .ok ⟨given, some o⟩
        | '=' :: value => do pure ⟨← record given o (String.ofList value), none⟩
        | value => do pure ⟨← record given o (String.ofList value), none⟩
      else
        match record given o "" with
        | .error refusal => .error refusal
        | .ok given => letters specs given rest

/-- Whether an argument can be the value of the option before it. -/
def isValue (arg : String) : Bool :=
  match arg.toList with
  | ['-'] => true
  | '-' :: _ => false
  | _ => true

/-- Takes options up to the first argument that is none, and says which arguments are left. -/
def options (specs : List OptionSpec) (given : Given) :
    List String → Except Refusal (Given × List String)
  | [] => .ok (given, [])
  | arg :: rest =>
    let step? : Option (Except Refusal Step) :=
      match arg.toList with
      | ['-'] => none
      | ['-', '-'] => none
      | '-' :: '-' :: s => some (longOption specs given s)
      | '-' :: s => some (letters specs given s)
      | _ => none
    match step? with
    | none => .ok (given, arg :: rest)
    | some (.error refusal) => .error refusal
    | some (.ok ⟨given, none⟩) => options specs given rest
    | some (.ok ⟨given, some o⟩) =>
      match rest with
      | [] => .error .usage
      | value :: rest =>
        if isValue value then
          match record given o value with
          | .error refusal => .error refusal
          | .ok given => options specs given rest
        else .error .usage

/-- Options with nothing behind them but perhaps a closing `--`. -/
def onlyOptions (specs : List OptionSpec) (args : List String) : Except Refusal Given :=
  match options specs [] args with
  | .error refusal => .error refusal
  | .ok (given, []) => .ok given
  | .ok (given, ["--"]) => .ok given
  | .ok _ => .error .usage

def help : OptionSpec := ⟨"help", some 'h', .help⟩

def version : OptionSpec := ⟨"version", some 'V', .version⟩

def verbose : OptionSpec := ⟨"verbose", some 'v', .flag⟩

def root : OptionSpec := ⟨"root", some 'r', .path⟩

/-- What to generate types for, and where to put them. -/
structure GenerateOptions where
  root : Path
  outputDir : Option Path
  deriving DecidableEq, Repr

/-- The directory for generated types, seen from the working directory. -/
def GenerateOptions.outputPath (o : GenerateOptions) (settings : Settings) : Path :=
  o.root.join (o.outputDir.getD ⟨settings.generatedDir⟩)

/-- What to import, and into which project. -/
structure ImportOptions where
  directory : Path
  root : Path
  manifests : List String
  defaultNetwork : Option String
  deriving DecidableEq, Repr

def generateSpecs : List OptionSpec := [root, ⟨"output-dir", some 'o', .path⟩, help]

def importSpecs : List OptionSpec :=
  [⟨"from", none, .path⟩, root, ⟨"manifest", none, .texts⟩, ⟨"default-network", none, .text⟩, help]

def rootOf (given : Given) : Path := ⟨(given.value? "root").getD "."⟩

def generateOptions (given : Given) : GenerateOptions :=
  ⟨rootOf given, (given.value? "output-dir").map Path.mk⟩

def importOptions (given : Given) : Except Refusal ImportOptions :=
  match given.value? "from" with
  | none => .error .usage
  | some directory =>
    .ok ⟨⟨directory⟩, rootOf given, given.values "manifest", given.value? "default-network"⟩

def readGenerate (args : List String) : Except Refusal GenerateOptions := do
  let given ← onlyOptions generateSpecs args
  pure (generateOptions given)

def readImport (args : List String) : Except Refusal ImportOptions := do
  let given ← onlyOptions importSpecs args
  importOptions given

inductive Command where
  | generate (options : GenerateOptions)
  | importFrom (options : ImportOptions)
  deriving DecidableEq, Repr

structure Invocation where
  verbose : Bool
  command : Command
  deriving DecidableEq, Repr

/-- The words after `help`: nothing or the name of one command. -/
def helpOn : List String → Refusal
  | [] => .help
  | ["codegen"] => .help
  | ["import"] => .help
  | ["help"] => .help
  | _ => .usage

def readCommand (isVerbose : Bool) (word : String) (args : List String) :
    Except Refusal Invocation :=
  if word = "codegen" then do
    let given ← onlyOptions (verbose :: generateSpecs) args
    pure ⟨isVerbose || given.has verbose.name, .generate (generateOptions given)⟩
  else if word = "import" then do
    let given ← onlyOptions (verbose :: importSpecs) args
    let options ← importOptions given
    pure ⟨isVerbose || given.has verbose.name, .importFrom options⟩
  else if word = "help" then .error (helpOn args)
  else .error .usage

/-- The whole command line of the program. -/
def read (args : List String) : Except Refusal Invocation := do
  let (given, rest) ← options [verbose, help, version] [] args
  match rest with
  | [] => .error .usage
  | word :: rest => readCommand (given.has verbose.name) word rest

end IndexerTypes.CommandLine
