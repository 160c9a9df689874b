import CommentBlocks.Action
import CommentBlocks.Text.Word

/-!
Directives are markup comments that may stand anywhere in a line. A start directive
(`comments:` with a keyword and a delimiter) opens a block, an end directive (`endcomments`) closes it.
Where a line can be read in several ways, the leftmost directive counts, then the longest keyword, then the
longest delimiter.
-/

namespace CommentBlocks

structure InvalidCommand where
  action : Text
  line : Nat
  deriving DecidableEq, Repr

def InvalidCommand.message (e : InvalidCommand) : String :=
  "Invalid command: '" ++ String.ofList e.action ++ "' (line " ++ toString e.line ++ ")"

structure Directive where
  action : Action
  delimiter : Text
  deriving DecidableEq, Repr

namespace Directive

structure Mark where
  keyword : Text
  delimiter : Text
  deriving DecidableEq, Repr

def longS : Char := Char.ofNat 0x17F

/-- Whether `c` is the small letter `a` or a variant of it in case. The letter `s` has a third form. -/
def isLetter (a c : Char) : Bool := c.toLower = a || a = 's' && c = longS

def afterWord? : (word s : Text) → Option Text
  | [], s => some s
  | _ :: _, [] => none
  | a :: as, c :: cs => if isLetter a c then afterWord? as cs else none

def markOpening : Text := ['<', '!', '-', '-']
def markClosing : Text := ['-', '-', '>']
def startWord : Text := ['c', 'o', 'm', 'm', 'e', 'n', 't', 's', ':']
def endWord : Text := ['e', 'n', 'd', 'c', 'o', 'm', 'm', 'e', 'n', 't', 's']

def afterClosing? (s : Text) : Option Text := Text.after? markClosing (Text.trimStart s)

def delimiter? : Text → Option Text
  | [] => none
  | c :: r =>
    if Text.isBlank c then none
    else (Text.longestRun? (fun c => !Text.isBlank c) afterClosing? r).map fun (d, _) => c :: d

def markAt? (s : Text) : Option Mark := do
  let s ← Text.after? markOpening s
  let s ← afterWord? startWord (Text.trimStart s)
  let (keyword, delimiter) ←
    Text.longestRun? Text.isWord (fun s => delimiter? (Text.trimStart s)) (Text.trimStart s)
  some ⟨keyword, delimiter⟩

def mark? (line : Text) : Option Mark := (Text.firstPlace? markAt? line).map Prod.snd

def endAt? (s : Text) : Option Text := do
  let s ← Text.after? markOpening s
  let s ← afterWord? endWord (Text.trimStart s)
  afterClosing? s

def isEnd (line : Text) : Bool := (Text.firstPlace? endAt? line).isSome

def read (n : Nat) (line : Text) : Except InvalidCommand (Option Directive) :=
  match mark? line with
  | none => .ok none
  | some m =>
    match Action.ofKeyword? m.keyword with
    | some a => .ok (some ⟨a, m.delimiter⟩)
    | none => .error ⟨Text.lowercase m.keyword, n⟩

def delimiters (d : Directive) : Delimiters := Delimiters.ofSpec d.delimiter

end Directive
end CommentBlocks
