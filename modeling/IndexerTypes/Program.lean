import IndexerTypes.Generation
import IndexerTypes.Import

/-! The program as a whole: from a command line, settings and a tree to a tree, the notices
that are shown, and the way in which the run ends. -/

namespace IndexerTypes.Program

def versionText : String := "ponder-codegen 0.1.0\n"

inductive Ending where
  | done
  | help
  | version
  /-- The command line is not understood. -/
  | refused
  | failed (failure : Failure)

namespace Ending

def ofRefusal : CommandLine.Refusal → Ending
  | .help => help
  | .version => version
  | .usage => refused

def exitCode : Ending → UInt8
  | failed _ => 1
  | refused => 2
  | _ => 0

/-- The report of a failure. -/
def errorText : Ending → String
  | failed failure => failure.report
  | _ => ""

end Ending

structure Run where
  tree : FileTree
  notices : List Notice
  ending : Ending

/-- Details are shown on request only. -/
def isShown (verbose : Bool) (n : Notice) : Bool := verbose || n.level != .debug

def unmappedNotice (count : Nat) : Notice :=
  ⟨.info, "Some ABI parameters were typed as `unknown`", [("count", toString count)]⟩

def summaryNotices (s : Generation.Summary) : List Notice :=
  if s.unmapped.isEmpty then [] else [unmappedNotice s.unmapped.length]

def generate (g : Generation) (t : FileTree) : Run :=
  let run := g.run t
  match run.result with
  | .error failure => ⟨run.tree, run.notices, .failed failure⟩
  | .ok summary => ⟨run.tree, run.notices ++ summaryNotices summary, .done⟩

def importProject (i : Import) (t : FileTree) : Run :=
  let run := i.run t
  match run.result with
  | .error failure => ⟨run.tree, run.notices, .failed failure⟩
  | .ok _ => ⟨run.tree, run.notices, .done⟩

def execute (settings : Settings) (t : FileTree) : CommandLine.Command → Run
  | .generate options => generate (.ofOptions settings options) t
  | .importFrom options => importProject (.ofOptions settings options) t

def run (settings : Settings) (args : List String) (t : FileTree) : Run :=
  match CommandLine.read args with
  | .error refusal => ⟨t, [], .ofRefusal refusal⟩
  | .ok invocation =>
    let run := execute settings t invocation.command
    { run with notices := run.notices.filter (isShown invocation.verbose) }

end IndexerTypes.Program
