import CommentBlocks.Diff
import CommentBlocks.Expansion
import CommentBlocks.Report

/-!
Batches of jobs on a disk. Results are written, shown as differences, or only counted; in the last two modes
the disk stays as it is. A batch ends at its first failure, and what was written before it stays.
-/

namespace CommentBlocks

inductive Mode where
  | write
  | dryRun
  | check
  deriving DecidableEq, Repr, Inhabited

namespace Job

def isInPlace (job : Job) : Bool := job.source.same job.destination

def makeParent (d : Disk) (p : Path) : Disk × Except Failure Unit :=
  match p.parent? with
  | none => (d, .ok ())
  | some q =>
    match d.makeDirectories q with
    | (d, result) => (d, result.mapError (Failure.file q))

/-- Writes a file and the directories on the way to it. The directories stay if the file cannot be written. -/
def save (d : Disk) (p : Path) (content : Text) : Disk × Except Failure Unit :=
  match makeParent d p with
  | (d, .error e) => (d, .error e)
  | (d, .ok ()) =>
    match d.write p content with
    | .error e => (d, .error (.file p e))
    | .ok d => (d, .ok ())

def transformed (o : Options) (d : Disk) (job : Job) : Except Failure (Text × Outcome) :=
  match d.read job.source with
  | .error e => .error (.file job.source e)
  | .ok content =>
    match Document.transform o content with
    | .error e => .error (.document job.source e)
    | .ok outcome => .ok (content, outcome)

def warnings (job : Job) (outcome : Outcome) : List Notice := outcome.warnings.map (.warning job.source)

def summary (content : Text) (outcome : Outcome) : Summary :=
  ⟨1, if outcome.content = content then 0 else 1, outcome.warnings.length⟩

/-- What a mode does with a result. A file that stays as it is, in its place, is not written. -/
def deliver (m : Mode) (d : Disk) (job : Job) (content : Text) (outcome : Outcome) : Report :=
  let changed : Bool := outcome.content ≠ content
  let totals := summary content outcome
  match m with
  | .write =>
    if changed || !job.isInPlace then
      match save d job.destination outcome.content with
      | (d, result) => ⟨d, [], result.map fun _ => totals⟩
    else ⟨d, [], .ok totals⟩
  | .dryRun =>
    let difference := Diff.render job.source job.destination content outcome.content
    ⟨d, if changed then [.difference difference] else [], .ok totals⟩
  | .check => ⟨d, if changed then [.wouldChange job.source] else [], .ok totals⟩

def apply (o : Options) (m : Mode) (d : Disk) (job : Job) : Report :=
  match job.transformed o d with
  | .error e => .fail d e
  | .ok (content, outcome) => (job.deliver m d content outcome).tell (job.warnings outcome)

def applyAll (o : Options) (m : Mode) : Disk → List Job → Report
  | d, [] => ⟨d, [], .ok {}⟩
  | d, job :: jobs => (job.apply o m d).andThen fun d => applyAll o m d jobs

theorem applyAll_cons (o : Options) (m : Mode) (d : Disk) (job : Job) (jobs : List Job) :
    applyAll o m d (job :: jobs) = (job.apply o m d).andThen fun d => applyAll o m d jobs := rfl

end Job
end CommentBlocks
