import CommentBlocks.Diff.Edit
import CommentBlocks.Path

namespace CommentBlocks.Diff

def lines : Text → List Text
  | [] => []
  | '\r' :: '\n' :: r => ['\r', '\n'] :: lines r
  | c :: r =>
    if c = '\n' ∨ c = '\r' then [c] :: lines r
    else
      match lines r with
      | [] => [[c]]
      | l :: ls => (c :: l) :: ls

inductive Stretch where
  | same (lines : List Text)
  | change (deleted inserted : List Text)
  deriving DecidableEq, Repr

namespace Stretch

def old : Stretch → List Text
  | same ls => ls
  | change deleted _ => deleted

def new : Stretch → List Text
  | same ls => ls
  | change _ inserted => inserted

def addRun : Run → List Stretch → List Stretch
  | .keep ls, same ms :: rest => same (ls ++ ms) :: rest
  | .delete ls, change deleted inserted :: rest => change (ls ++ deleted) inserted :: rest
  | .insert ls, change deleted inserted :: rest => change deleted (ls ++ inserted) :: rest
  | .keep ls, rest => same ls :: rest
  | .delete ls, rest => change ls [] :: rest
  | .insert ls, rest => change [] ls :: rest

def ofRuns (runs : List Run) : List Stretch := runs.foldr addRun []

end Stretch

/-- A group of stretches, with the numbers of lines before it in the old and in the new content. -/
structure Hunk where
  oldStart : Nat
  newStart : Nat
  stretches : List Stretch
  deriving DecidableEq, Repr

def context : Nat := 3

/-- Divides stretches into groups. `begun` is the group that has been begun, its last stretch first. Kept
lines that are more than the context of two groups end one group and begin the next. -/
def groups : (begun : Hunk) → (oldAt newAt : Nat) → List Stretch → List Hunk
  | begun, _, _, [] => [{ begun with stretches := begun.stretches.reverse }]
  | begun, oldAt, newAt, .same ls :: rest =>
    if ls.length > 2 * context then
      let skipped := ls.length - context
      { begun with stretches := (Stretch.same (ls.take context) :: begun.stretches).reverse } ::
        groups ⟨oldAt + skipped, newAt + skipped, [.same (ls.drop skipped)]⟩ (oldAt + ls.length)
          (newAt + ls.length) rest
    else groups { begun with stretches := .same ls :: begun.stretches } (oldAt + ls.length)
      (newAt + ls.length) rest
  | begun, oldAt, newAt, .change deleted inserted :: rest =>
    groups { begun with stretches := .change deleted inserted :: begun.stretches } (oldAt + deleted.length)
      (newAt + inserted.length) rest

def Hunk.hasChange (h : Hunk) : Bool :=
  h.stretches.any fun
    | .change _ _ => true
    | .same _ => false

def trimStart : List Stretch → Nat × List Stretch
  | .same ls :: rest =>
    let skipped := ls.length - context
    (skipped, .same (ls.drop skipped) :: rest)
  | stretches => (0, stretches)

def trimEnd : List Stretch → List Stretch
  | [] => []
  | [.same ls] => [.same (ls.take context)]
  | s :: rest => s :: trimEnd rest

def hunks (old new : List Text) : List Hunk :=
  let (skipped, stretches) := trimStart (Stretch.ofRuns (edit old new))
  (groups ⟨skipped, skipped, []⟩ skipped skipped (trimEnd stretches)).filter Hunk.hasChange

def range (start length : Nat) : Text :=
  let number (n : Nat) : Text := Nat.toDigits 10 n
  if length = 1 then number (start + 1)
  else if length = 0 then number start ++ (',' :: number 0)
  else number (start + 1) ++ (',' :: number length)

def missingEnd : Text := "\n\\ No newline at end of file\n".toList

def markedLine (mark : Char) (line : Text) : Text :=
  mark :: line ++
    match line.getLast? with
    | some '\n' => []
    | some '\r' => []
    | _ => missingEnd

def Stretch.text : Stretch → Text
  | same ls => ls.flatMap (markedLine ' ')
  | change deleted inserted => deleted.flatMap (markedLine '-') ++ inserted.flatMap (markedLine '+')

def Hunk.text (h : Hunk) : Text :=
  "@@ -".toList ++ range h.oldStart (h.stretches.flatMap Stretch.old).length ++ " +".toList ++
    range h.newStart (h.stretches.flatMap Stretch.new).length ++ " @@\n".toList ++
    h.stretches.flatMap Stretch.text

def render (source destination : Path) (old new : Text) : Text :=
  match hunks (lines old) (lines new) with
  | [] => []
  | hs =>
    "--- ".toList ++ source.text ++ "\n+++ ".toList ++ destination.text ++ ['\n'] ++ hs.flatMap Hunk.text

end CommentBlocks.Diff
