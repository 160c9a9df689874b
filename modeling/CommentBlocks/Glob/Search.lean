import CommentBlocks.Disk
import CommentBlocks.Glob.Pattern

/-!
The paths on a disk that a pattern stands for, directory by directory in the order of the names. Literal
components are looked up as they are, so `..` and names with any spelling work there; other components
are compared with the names in a directory.
-/

namespace CommentBlocks.Glob

inductive Part where
  | literal (name : Text)
  | wild (tokens : List Token)
  | directories
  deriving DecidableEq, Repr

def literal? : List Token → Option Text
  | [] => some []
  | .char c :: ts => (literal? ts).map (c :: ·)
  | _ :: _ => none

def Part.ofTokens (ts : List Token) : Part :=
  match literal? ts with
  | some s => literal s
  | none => if ts = [.directories] then directories else wild ts

def Part.accepts : Part → Text → Bool
  | literal s, name => s = name
  | wild ts, name => Glob.accepts ts name
  | directories, _ => true

def Part.startsWithDot : Part → Bool
  | wild (.char '.' :: _) => true
  | _ => false

def collapse : List Part → List Part
  | .directories :: .directories :: ps => collapse (.directories :: ps)
  | p :: ps => p :: collapse ps
  | [] => []

/-- A pattern cut into parts. A slash at the end asks for directories. -/
structure Pattern where
  absolute : Bool
  parts : List Part
  directoriesOnly : Bool
  deriving DecidableEq, Repr

def cutParts (s : Text) : List Text :=
  let ps := Text.cut '/' s
  if ps.getLast? = some [] then ps.dropLast else ps

def Pattern.parse (s : Text) : Except PatternError Pattern := do
  let _ ← tokens s
  let absolute : Bool := s.head? = some '/'
  let rest := if absolute then s.tail else s
  let parts ← (cutParts rest).mapM fun piece => do return Part.ofTokens (← tokens piece)
  return ⟨absolute, if rest.isEmpty then [.literal []] else collapse parts, s.getLast? = some '/'⟩

def currentDirectory : Path := ⟨['.']⟩

def child (dir : Path) (name : Text) : Path :=
  if dir.same currentDirectory then ⟨name⟩ else dir.join ⟨name⟩

def names (d : Disk) (dir : Path) : List Text :=
  match d.locate dir with
  | .ok l => if d.isDirectory dir then d.names l else []
  | .error _ => []

def below (d : Disk) : (depth : Nat) → (dir : Path) → List (Path × Text)
  | 0, _ => []
  | depth + 1, dir =>
    (names d dir).flatMap fun name => (child dir name, name) :: below d depth (child dir name)

/-- One more than the number of names on the way to any location. -/
def depth (d : Disk) : Nat := (d.entries.map fun e => e.1.location.length).foldr max 0 + 1

def search (d : Disk) (directoriesOnly : Bool) : List Part → (dir : Path) → List Path
  | [], dir => if directoriesOnly && !d.isDirectory dir then [] else [dir]
  | .literal name :: parts, dir =>
    let next := child dir name
    let found := if name = ['.'] ∨ name = ['.', '.'] then d.isDirectory dir else d.holds next
    if found then search d directoriesOnly parts next else []
  | [.directories], dir => ((below d (depth d) dir).map Prod.fst).filter d.isDirectory
  | .directories :: part :: parts, dir =>
    (below d (depth d) dir).flatMap fun (path, name) =>
      if part.accepts name then search d directoriesOnly parts path else []
  | part :: parts, dir =>
    let special := if part.startsWithDot && d.isDirectory dir then [['.', '.'], ['.']] else []
    (special.flatMap fun name =>
      if part.accepts name then search d directoriesOnly parts (dir.join ⟨name⟩) else []) ++
    (names d dir).flatMap fun name =>
      if part.accepts name then search d directoriesOnly parts (child dir name) else []

def Pattern.paths (p : Pattern) (d : Disk) : List Path :=
  search d p.directoriesOnly p.parts (if p.absolute then ⟨['/']⟩ else currentDirectory)

end CommentBlocks.Glob
