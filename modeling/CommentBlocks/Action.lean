import CommentBlocks.Delimiters
import CommentBlocks.Text.Lowercase

namespace CommentBlocks

namespace Delimiters

def comment (d : Delimiters) (padding : Nat) (line : Text) : Text :=
  if d.isCommented line then line
  else
    let pad := List.replicate padding ' '
    Text.indent line ++ (d.opening ++ (pad ++ (Text.trim line ++
      if d.closing = [] then [] else pad ++ d.closing)))

def uncomment (d : Delimiters) (line : Text) : Text :=
  match d.detect? line with
  | some x => x.indent ++ Text.trim x.body
  | none => line

/-- Comments the line; a line that this leaves as it is gets uncommented. -/
def toggle (d : Delimiters) (padding : Nat) (line : Text) : Text :=
  let commented := d.comment padding line
  if commented ≠ line then commented else d.uncomment line

end Delimiters

inductive Action where
  | comment
  | uncomment
  | toggle
  deriving DecidableEq, Repr

namespace Action

def name : Action → Text
  | comment => ['c', 'o', 'm', 'm', 'e', 'n', 't']
  | uncomment => ['u', 'n', 'c', 'o', 'm', 'm', 'e', 'n', 't']
  | toggle => ['t', 'o', 'g', 'g', 'l', 'e']

def all : List Action := [comment, uncomment, toggle]

def ofKeyword? (keyword : Text) : Option Action :=
  all.find? fun a => a.name = Text.lowercase keyword

def apply (a : Action) (d : Delimiters) (padding : Nat) (line : Text) : Text :=
  match a with
  | comment => d.comment padding line
  | uncomment => d.uncomment line
  | toggle => d.toggle padding line

end Action
end CommentBlocks
