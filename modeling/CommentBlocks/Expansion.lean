import CommentBlocks.Glob.Search
import CommentBlocks.Settings

/-!
The files of a target. The base directory is a literal path; only the patterns are read as such. Every file
comes once, at its first place, and a destination keeps the part of its path that lies below the base.
-/

namespace CommentBlocks

structure Job where
  source : Path
  destination : Path
  deriving DecidableEq, Repr

def Job.inPlace (p : Path) : Job := ⟨p, p⟩

namespace Target

def baseFrom (t : Target) (root : Path) : Path :=
  match t.base with
  | some base => root.join base
  | none => root

def fullPattern (t : Target) (root : Path) (pattern : Text) : Text :=
  (Path.join ⟨Glob.escape (t.baseFrom root).text⟩ ⟨pattern⟩).text

def destinationOf (t : Target) (root source : Path) : Path :=
  match t.destination with
  | some dest => (root.join dest).join ((source.stripPrefix? (t.baseFrom root)).getD source)
  | none => source

def addSources (d : Disk) (sources paths : List Path) : List Path :=
  paths.foldl (fun sources p => if !d.isFile p || sources.any p.same then sources else sources ++ [p]) sources

def sources (t : Target) (d : Disk) (root : Path) : Except Glob.PatternError (List Path) :=
  t.patterns.foldlM (fun sources pattern => do
    return addSources d sources ((← Glob.Pattern.parse (t.fullPattern root pattern)).paths d)) []

def expand (t : Target) (d : Disk) (root : Path) : Except Glob.PatternError (List Job) := do
  return (← t.sources d root).map fun p => ⟨p, t.destinationOf root p⟩

end Target
end CommentBlocks
