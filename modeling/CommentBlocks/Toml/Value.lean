import CommentBlocks.Binary64

namespace CommentBlocks.Toml

inductive Value where
  | string (text : Text)
  | integer (number : Int)
  | float (number : Binary64)
  | boolean (truth : Bool)
  | date (text : Text)
  | array (items : List Value)
  | table (entries : List (Text × Value))
  deriving Repr, Inhabited

abbrev Table := List (Text × Value)

end CommentBlocks.Toml
