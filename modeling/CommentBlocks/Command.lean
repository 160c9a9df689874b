import CommentBlocks.Batch

namespace CommentBlocks

namespace Settings

def load (d : Disk) (p : Path) : Except Failure Settings :=
  match d.read p with
  | .error .notFound => .error (.noSettings p)
  | .error e => .error (.file p e)
  | .ok content => (read p content).mapError (.settings p)

def loadIfPresent (d : Disk) (p : Path) : Except Failure Settings :=
  if d.isFile p then load d p else .ok {}

end Settings

namespace Job

/-- A job with its result below a directory. A relative path keeps its layout there, of an absolute one only
the name is kept. -/
def toDirectory (dir p : Path) : Job :=
  ⟨p, if p.isAbsolute then
      match p.fileName? with
      | some name => dir.join ⟨name⟩
      | none => dir
    else dir.join p⟩

def ofFile : (outDirectory : Option Path) → Path → Job
  | none, p => inPlace p
  | some dir, p => toDirectory dir p

end Job

inductive Command where
  | process (files : List Path) (outDirectory : Option Path) (options : Overlay) (mode : Mode)
  | run (targets : List Text) (options : Overlay) (mode : Mode)
  | targets
  deriving DecidableEq, Repr

structure Ending where
  disk : Disk
  output : String := ""
  warnings : String := ""
  failure : Option Failure := none
  deriving Repr

namespace Ending

def errors (x : Ending) : String :=
  match x.failure with
  | none => x.warnings
  | some e => x.warnings ++ "error: " ++ e.message ++ "\n"

def code (x : Ending) : Nat := if x.failure.isSome then 1 else 0

end Ending

namespace Command

def processFiles (config : Path) (files : List Path) (outDirectory : Option Path) (top : Overlay)
    (m : Mode) (d : Disk) : Report :=
  match Settings.loadIfPresent d config with
  | .error e => .fail d e
  | .ok s => Job.applyAll (s.resolve none top) m d (files.map (Job.ofFile outDirectory))

/-- Looks the target up and finds its files on the disk as it is when the target's turn comes. -/
def runTarget (s : Settings) (top : Overlay) (m : Mode) (d : Disk) (name : Text) : Report :=
  match s.target name with
  | .error e => .fail d (.unknownTarget e)
  | .ok t =>
    match t.expand d s.root with
    | .error e => .fail d (.pattern e)
    | .ok jobs => (Job.applyAll (s.resolve (some t) top) m d jobs).tell [.running name jobs.length]

def runTargets (s : Settings) (top : Overlay) (m : Mode) : Disk → List Text → Report
  | d, [] => ⟨d, [], .ok {}⟩
  | d, name :: names => (runTarget s top m d name).andThen fun d => runTargets s top m d names

def selected (s : Settings) (names : List Text) : List Text := if names.isEmpty then s.names else names

def runSelected (config : Path) (names : List Text) (top : Overlay) (m : Mode) (d : Disk) : Report :=
  match Settings.load d config with
  | .error e => .fail d e
  | .ok s =>
    match selected s names with
    | [] => .fail d (.noTargets config)
    | name :: names => runTargets s top m d (name :: names)

def targetLine (name : Text) (t : Target) : String :=
  String.ofList name ++ " " ++ String.ofList (Text.glue [',', ' '] t.patterns) ++ " -> " ++
    (match t.destination with
      | some p => toString p
      | none => "in place") ++ "\n"

def listTargets (config : Path) (d : Disk) : Ending :=
  match Settings.load d config with
  | .error e => ⟨d, "", "", some e⟩
  | .ok s =>
    if s.targets.isEmpty then ⟨d, "No targets defined in " ++ toString config ++ "\n", "", none⟩
    else ⟨d, String.join (s.targets.map fun (name, t) => targetLine name t), "", none⟩

def totalsLine (m : Mode) (s : Summary) : String :=
  "OK " ++ toString s.processed ++ " file(s) processed, " ++ toString s.changed ++
    (if m = .write then " changed, " else " would change, ") ++ toString s.warnings ++ " warning(s)\n"

def noticesText (ns : List Notice) : String := String.join (ns.map Notice.text)

def conclude (m : Mode) (r : Report) : Ending :=
  let output := noticesText (r.notices.filter fun n => !n.isWarning)
  let warnings := noticesText (r.notices.filter Notice.isWarning)
  match r.result with
  | .error e => ⟨r.disk, output, warnings, some e⟩
  | .ok s =>
    ⟨r.disk, output ++ totalsLine m s, warnings,
      if m = .check ∧ s.changed > 0 then some (.notUpToDate s.changed) else none⟩

def execute (config : Path) (d : Disk) : Command → Ending
  | .process files outDirectory top m => conclude m (processFiles config files outDirectory top m d)
  | .run names top m => conclude m (runSelected config names top m d)
  | .targets => listTargets config d

end Command
end CommentBlocks
