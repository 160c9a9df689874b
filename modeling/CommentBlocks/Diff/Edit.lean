import CommentBlocks.Text

/-!
A shortest edit between two lists of lines, as runs of kept, deleted and inserted lines. It is searched from
both ends at once, and the parts on both sides of the meeting point are treated alike. Of several shortest
edits, insertions are then moved as far down as they go.
-/

namespace CommentBlocks.Diff

inductive Run where
  | keep (lines : List Text)
  | delete (lines : List Text)
  | insert (lines : List Text)
  deriving DecidableEq, Repr

def Run.old : Run → List Text
  | keep ls => ls
  | delete ls => ls
  | insert _ => []

def Run.new : Run → List Text
  | keep ls => ls
  | delete _ => []
  | insert ls => ls

def commonStart : List Text → List Text → Nat
  | a :: as, b :: bs => if a = b then commonStart as bs + 1 else 0
  | _, _ => 0

def commonEnd (as bs : List Text) : Nat := commonStart as.reverse bs.reverse

namespace Meeting

/-- For each diagonal, how far along the old lines the search has come. Diagonals count from `-reach`. -/
structure Frontier where
  reach : Nat
  found : Array Nat

namespace Frontier

def start (reach : Nat) : Frontier := ⟨reach, Array.replicate (2 * reach + 3) 0⟩

def get (f : Frontier) (k : Int) : Nat := (f.found[(k + f.reach + 1).toNat]?).getD 0

def set (f : Frontier) (k : Int) (x : Nat) : Frontier :=
  { f with found := f.found.setIfInBounds (k + f.reach + 1).toNat x }

def advance (f : Frontier) (d k : Int) : Nat :=
  if k = -d ∨ (k ≠ d ∧ f.get (k - 1) < f.get (k + 1)) then f.get (k + 1) else f.get (k - 1) + 1

end Frontier

structure Side where
  old : List Text
  new : List Text

def Side.equalFrom (s : Side) (x : Nat) (y : Int) : Nat :=
  if x < s.old.length ∧ 0 ≤ y ∧ y < s.new.length then commonStart (s.old.drop x) (s.new.drop y.toNat)
  else 0

/-- Extends the frontier on the diagonals `ks`. `met` tells of a point, before and after its equal lines,
whether the other direction has come there. -/
def Side.extend (s : Side) (d : Int) (met : (k : Int) → (x : Nat) → Bool) :
    List Int → Frontier → Frontier × Option ((Nat × Int) × (Nat × Int))
  | [], f => (f, none)
  | k :: ks, f =>
    let x := f.advance d k
    let n := s.equalFrom x (x - k)
    let f := f.set k (x + n)
    if met k (x + n) then (f, some ((x, x - k), (x + n, x + n - k))) else s.extend d met ks f

def diagonals (d : Nat) : List Int := (List.range (d + 1)).map fun (i : Nat) => (d : Int) - 2 * i

/-- The point at which the two directions meet, after `d` steps of each and at most `steps` more. -/
def search (forward backward : Side) (delta : Int) (odd : Bool) :
    (steps d : Nat) → Frontier → Frontier → Option (Nat × Nat)
  | 0, _, _, _ => none
  | steps + 1, d, f, b =>
    let n := forward.old.length
    let m := forward.new.length
    let metForward (k : Int) (x : Nat) : Bool :=
      odd && (k - delta).natAbs < d && n ≤ x + b.get (-(k - delta))
    match forward.extend d metForward (diagonals d) f with
    | (_, some ((x, y), _)) => some (x, y.toNat)
    | (f, none) =>
      let metBackward (k : Int) (x : Nat) : Bool :=
        !odd && (k - delta).natAbs ≤ d && n ≤ x + f.get (-(k - delta))
      match backward.extend d metBackward (diagonals d) b with
      | (_, some (_, (x, y))) => some (n - x, ((m : Int) - y).toNat)
      | (b, none) => search forward backward delta odd steps (d + 1) f b

def point? (old new : List Text) : Option (Nat × Nat) :=
  let reach := (old.length + new.length + 1) / 2 + 1
  let delta : Int := (old.length : Int) - new.length
  let frontier := Frontier.start reach
  search ⟨old, new⟩ ⟨old.reverse, new.reverse⟩ delta (delta % 2 == 1) reach 0 frontier frontier

end Meeting

def divide : (depth : Nat) → (old new : List Text) → List Run
  | 0, old, new => [.delete old, .insert new]
  | depth + 1, old, new =>
    let p := commonStart old new
    let kept := old.take p
    let old := old.drop p
    let new := new.drop p
    let q := commonEnd old new
    let last := old.drop (old.length - q)
    let old := old.take (old.length - q)
    let new := new.take (new.length - q)
    let middle :=
      if new.isEmpty then [.delete old]
      else if old.isEmpty then [.insert new]
      else
        match Meeting.point? old new with
        | some (x, y) => divide depth (old.take x) (new.take y) ++ divide depth (old.drop x) (new.drop y)
        | none => [.delete old, .insert new]
    .keep kept :: middle ++ [.keep last]

def Run.isEmpty : Run → Bool
  | keep ls => ls.isEmpty
  | delete ls => ls.isEmpty
  | insert ls => ls.isEmpty

def keepBefore (ls : List Text) : List Run → List Run
  | .keep ms :: rest => .keep (ls ++ ms) :: rest
  | rest => if ls.isEmpty then rest else .keep ls :: rest

def keepAfter (ls : List Text) : List Run → List Run
  | .keep ms :: rest => .keep (ms ++ ls) :: rest
  | rest => if ls.isEmpty then rest else .keep ls :: rest

def tidy (runs : List Run) : List Run :=
  runs.foldr (fun r rest =>
    match r with
    | .keep ls => keepBefore ls rest
    | r => if r.isEmpty then rest else r :: rest) []

/-- Lines in the middle of an edit, with the runs before them, the nearest first, and those after them. -/
structure Place where
  before : List Run
  lines : List Text
  after : List Run

/-- Moves inserted lines up as far as equal lines allow, taking up other insertions on the way. -/
def raiseInsertion : Nat → Place → Place
  | 0, p => p
  | n + 1, p =>
    match p.before with
    | [] => p
    | .keep ls :: rest =>
      let q := commonEnd ls p.lines
      if q = 0 then p
      else
        let shared := ls.drop (ls.length - q)
        raiseInsertion n
          ⟨keepAfter (ls.take (ls.length - q)) rest, shared ++ p.lines.take (p.lines.length - q),
            keepBefore shared p.after⟩
    | .delete ls :: rest => raiseInsertion n ⟨rest, p.lines, .delete ls :: p.after⟩
    | .insert ls :: rest => raiseInsertion n ⟨rest, ls ++ p.lines, p.after⟩

def lowerInsertion : Nat → Place → Place
  | 0, p => p
  | n + 1, p =>
    match p.after with
    | [] => p
    | .keep ls :: rest =>
      let q := commonStart ls p.lines
      if q = 0 then p
      else
        let shared := ls.take q
        lowerInsertion n
          ⟨keepAfter shared p.before, p.lines.drop q ++ shared, keepBefore (ls.drop q) rest⟩
    | .delete ls :: rest => lowerInsertion n ⟨.delete ls :: p.before, p.lines, rest⟩
    | .insert ls :: rest => lowerInsertion n ⟨p.before, p.lines ++ ls, rest⟩

def lowerDeletion : List Run → List Text → List Run → Place
  | before, lines, .insert ls :: rest => lowerDeletion (.insert ls :: before) lines rest
  | before, lines, .delete ls :: rest => lowerDeletion before (lines ++ ls) rest
  | before, lines, after => ⟨before, lines, after⟩

def settleDeletions : Nat → (before after : List Run) → List Run
  | 0, before, after => before.reverse ++ after
  | _ + 1, before, [] => before.reverse
  | n + 1, before, .delete ls :: rest =>
    let p := lowerDeletion before ls rest
    settleDeletions n (.delete p.lines :: p.before) p.after
  | n + 1, before, r :: rest => settleDeletions n (r :: before) rest

def settleInsertions (bound : Nat) : Nat → (before after : List Run) → List Run
  | 0, before, after => before.reverse ++ after
  | _ + 1, before, [] => before.reverse
  | n + 1, before, .insert ls :: rest =>
    let p := lowerInsertion bound (raiseInsertion bound ⟨before, ls, rest⟩)
    settleInsertions bound n (.insert p.lines :: p.before) p.after
  | n + 1, before, r :: rest => settleInsertions bound n (r :: before) rest

def edit (old new : List Text) : List Run :=
  let size := old.length + new.length + 1
  let runs := tidy (divide size old new)
  settleInsertions (size * size) (size * size) [] (settleDeletions (size * size) [] runs)

end CommentBlocks.Diff
