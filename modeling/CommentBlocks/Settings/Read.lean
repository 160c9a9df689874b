import CommentBlocks.Settings.Decode
import CommentBlocks.Toml.Grammar

namespace CommentBlocks.Settings

inductive ReadError where
  | malformed
  | unfit (fault : Fault)
  deriving DecidableEq, Repr

def ReadError.message : ReadError → String
  | malformed => "not well-formed TOML"
  | unfit f => f.message

def rootOf (path : Path) : Path := path.parent?.getD ⟨[]⟩

def read (path : Path) (content : Text) : Except ReadError Settings :=
  match Toml.parse? content with
  | none => .error .malformed
  | some es => (decode (rootOf path) es).mapError .unfit

def readOptions (content : Text) : Except ReadError Options :=
  match Toml.parse? content with
  | none => .error .malformed
  | some es => (decodeOptions es).mapError .unfit

end CommentBlocks.Settings
