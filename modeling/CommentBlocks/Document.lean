import CommentBlocks.Directive
import CommentBlocks.Lines

/-!
A document is a sequence of lines with blocks in it. A start directive outside a block opens one, the next
end directive closes it, and its action changes the lines between. What is a directive by its form but
stands inside a block (a start) or outside all blocks (an end) is an ordinary line.
-/

namespace CommentBlocks

structure Options where
  removeDirectiveLines : Bool := false
  padding : Nat := 1
  deriving DecidableEq, Repr, Inhabited

structure Warning where
  action : Action
  openedAt : Nat
  deriving DecidableEq, Repr

def Warning.message (w : Warning) : String :=
  "Missing 'endcomments' tag for '" ++ String.ofList w.action.name ++ "' block opened at line " ++
    toString w.openedAt

structure Outcome where
  content : Text
  warnings : List Warning
  deriving DecidableEq, Repr

namespace Document

structure Block where
  action : Action
  delimiters : Delimiters
  openedAt : Nat
  deriving DecidableEq, Repr

def Block.ofDirective (n : Nat) (d : Directive) : Block := ⟨d.action, d.delimiters, n⟩

def Block.apply (b : Block) (o : Options) (line : Text) : Text :=
  b.action.apply b.delimiters o.padding line

def Block.warning (b : Block) : Warning := ⟨b.action, b.openedAt⟩

def directiveLine (o : Options) (line : Text) : Text := if o.removeDirectiveLines then [] else line

/-- Line number `n` with the block that is open before it: the new line and the block open after it. -/
def step (o : Options) (n : Nat) (block : Option Block) (line : Text) :
    Except InvalidCommand (Text × Option Block) :=
  match block with
  | some b =>
    if Directive.isEnd line then .ok (directiveLine o line, none)
    else .ok (b.apply o line, some b)
  | none =>
    match Directive.read n line with
    | .error e => .error e
    | .ok none => .ok (line, none)
    | .ok (some d) => .ok (directiveLine o line, some (Block.ofDirective n d))

def scan (o : Options) :
    (n : Nat) → Option Block → List Text → Except InvalidCommand (List Text × Option Block)
  | _, block, [] => .ok ([], block)
  | n, block, line :: lines =>
    match step o n block line with
    | .error e => .error e
    | .ok (line', block') =>
      match scan o (n + 1) block' lines with
      | .error e => .error e
      | .ok (lines', last) => .ok (line' :: lines', last)

def transform (o : Options) (content : Text) : Except InvalidCommand Outcome :=
  match scan o 1 none (Lines.split content) with
  | .error e => .error e
  | .ok (lines, block) =>
    .ok ⟨Lines.join (LineEnding.detect content) lines, (block.map Block.warning).toList⟩

end Document
end CommentBlocks
