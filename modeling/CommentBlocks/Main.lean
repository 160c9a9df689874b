import CommentBlocks.Invocation.Read

/-!
The program. It takes a snapshot of the files that a command may look at, executes the command on the
snapshot, and writes what has changed. The names to compare with patterns come on standard input, one to a
line.
-/

namespace CommentBlocks

def environmentVariable : String := "COMMENT_TOGGLER_CONFIG"

def Disk.trail (d : Disk) (p : Path) : List Location :=
  (p.pieces.foldl (fun (l, trail) piece => (enter l piece, trail ++ [enter l piece])) (d.start p, [])).2

def Job.paths (job : Job) : List Path := [job.source, job.destination]

def Target.paths (t : Target) (d : Disk) (root : Path) : List Path :=
  t.patterns.map (fun pattern => (t.baseFrom root).join ⟨pattern⟩) ++
    match t.expand d root with
    | .ok jobs => jobs.flatMap Job.paths
    | .error _ => []

def Command.paths (config : Path) (d : Disk) : Command → List Path
  | .process files outDirectory _ _ => config :: (files.map (Job.ofFile outDirectory)).flatMap Job.paths
  | .run _ _ _ =>
    config ::
      match Settings.load d config with
      | .ok s => s.targets.flatMap fun (_, t) => t.paths d s.root
      | .error _ => []
  | .targets => [config]

def locationText (l : Location) : String := String.ofList ('/' :: Text.glue ['/'] l)

/-- What is found at a location. What cannot be read counts as nothing. -/
def probe (l : Location) : IO (Option Entry) := do
  try
    let bytes ← IO.FS.readBinFile (locationText l)
    match String.fromUTF8? bytes with
    | some s => return some (.file (.text s.toList))
    | none => return some (.file (.binary bytes.toList))
  catch
    | .inappropriateType _ 21 _ => return some .directory
    | _ => return none

def look (d : Disk) (p : Path) : IO Disk :=
  (d.trail p).foldlM (fun d l => do
    if (d.lookup? l).isSome then return d
    match ← probe l with
    | some e => return d.put l e
    | none => return d) d

/-- Looks at the paths of a command: first at the settings, then at the files of targets, then at where
their results go. -/
def snapshot (i : Invocation) (names : List Path) : IO Disk := do
  let here : Path := ⟨(toString (← IO.currentDir)).toList⟩
  let working := Disk.trail {} here |>.getLastD []
  let d ← names.foldlM look (← look { working := working } here)
  match i.command with
  | none => return d
  | some c => [0, 1, 2].foldlM (fun d _ => (c.paths i.config d).foldlM look d) d

def readNames (i : Invocation) : IO (List Path) := do
  match i.command with
  | some (.run _ _ _) =>
    let content ← (← IO.getStdin).readToEnd
    return (Lines.split content.toList).map Path.mk
  | _ => return []

/-- Brings the files to what a command left: the entries that are new or have changed, in the order in which
they were made. -/
def commit (before after : Disk) : IO Unit :=
  after.entries.reverse.forM fun (⟨l, _⟩, e) => do
    if before.lookup? l ≠ some e then
      match e with
      | .directory => IO.FS.createDir (locationText l)
      | .file (.text t) => IO.FS.writeFile (locationText l) (String.ofList t)
      | .file (.binary _) => pure ()

def start (args : List String) : IO UInt32 := do
  let fallback := (← IO.getEnv environmentVariable).map String.toList
  match Invocation.read fallback (args.map String.toList) with
  | .error stop =>
    if stop.code = 0 then IO.print stop.message else IO.eprint stop.message
    return stop.code.toUInt32
  | .ok i =>
    let before ← snapshot i (← readNames i)
    let ending := i.execute before
    commit before ending.disk
    IO.print ending.output
    IO.eprint ending.errors
    return ending.code.toUInt32

end CommentBlocks

def main (args : List String) : IO UInt32 := CommentBlocks.start args
