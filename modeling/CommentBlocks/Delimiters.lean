import CommentBlocks.Text.Blank

namespace CommentBlocks

/-- A comment runs from `opening` to `closing`. An empty `closing` stands for the end of the line. -/
structure Delimiters where
  opening : Text
  closing : Text := []
  deriving DecidableEq, Repr

/-- How a commented line divides: `indent`, the opening delimiter, `body`, the closing delimiter, `rest`. -/
structure Detection where
  indent : Text
  body : Text
  rest : Text
  deriving DecidableEq, Repr

namespace Delimiters

def html : Delimiters := ⟨['<', '!', '-', '-'], ['-', '-', '>']⟩
def css : Delimiters := ⟨['/', '*'], ['*', '/']⟩

/-- The delimiters that a directive asks for: `html` and `css`, in any casing, are names of pairs, and any
other text is an opening delimiter. -/
def ofSpec (spec : Text) : Delimiters :=
  let name := spec.map Char.toLower
  if name = ['h', 't', 'm', 'l'] then html
  else if name = ['c', 's', 's'] then css
  else ⟨spec, []⟩

/-- The indentation and the body are taken as long as the rest allows, the indentation first. The body
holds no line feed. -/
def detect? (d : Delimiters) (line : Text) : Option Detection :=
  let body? (s : Text) := Text.longestRun? (· ≠ '\n') (Text.after? d.closing) s
  (Text.longestRun? Text.isBlank (fun s => (Text.after? d.opening s).bind body?) line).map
    fun (indent, body, rest) => ⟨indent, body, rest⟩

def isCommented (d : Delimiters) (line : Text) : Bool := (d.detect? line).isSome

def Detection.matched (d : Delimiters) (x : Detection) : Text :=
  x.indent ++ (d.opening ++ (x.body ++ d.closing))

def metaChars : List Char :=
  ['\\', '.', '+', '*', '?', '(', ')', '|', '[', ']', '{', '}', '^', '$', '#', '&', '-', '~']

def escape (s : Text) : Text :=
  s.flatMap fun c => if metaChars.contains c then ['\\', c] else [c]

def pattern (d : Delimiters) : Text :=
  ['^', '(', '\\', 's', '*', ')', '('] ++ escape d.opening ++ [')', '(', '.', '*', ')'] ++ escape d.closing

end Delimiters
end CommentBlocks
