import CommentBlocks.Document
import CommentBlocks.Path

/-!
Settings: default options and named targets. Options are layered: what an overlay leaves open is decided
below it, by the target, then by the settings, then by the built-in defaults.
-/

namespace CommentBlocks

structure Overlay where
  removeDirectiveLines : Option Bool := none
  padding : Option Nat := none
  deriving DecidableEq, Repr, Inhabited

def Overlay.over (o : Overlay) (below : Options) : Options :=
  ⟨o.removeDirectiveLines.getD below.removeDirectiveLines, o.padding.getD below.padding⟩

/-- A named set of files: patterns seen from a base directory, and where the results go. Without a
destination the results take the place of the files. -/
structure Target where
  base : Option Path := none
  patterns : List Text
  destination : Option Path := none
  options : Overlay := {}
  deriving DecidableEq, Repr, Inhabited

structure UnknownTarget where
  name : Text
  available : List Text
  deriving DecidableEq, Repr

def UnknownTarget.message (e : UnknownTarget) : String :=
  "Unknown target '" ++ String.ofList e.name ++ "' (available: " ++
    (if e.available.isEmpty then "none" else String.ofList (Text.glue [',', ' '] e.available)) ++ ")"

structure Settings where
  options : Overlay := {}
  targets : List (Text × Target) := []
  root : Path := ⟨[]⟩
  deriving DecidableEq, Repr, Inhabited

namespace Settings

def insertTarget (name : Text) (t : Target) : List (Text × Target) → List (Text × Target)
  | [] => [(name, t)]
  | (n, u) :: rest =>
    if n = name then (name, t) :: rest
    else if Text.precedes name n then (name, t) :: (n, u) :: rest
    else (n, u) :: insertTarget name t rest

def names (s : Settings) : List Text := s.targets.map Prod.fst

def target (s : Settings) (name : Text) : Except UnknownTarget Target :=
  match s.targets.find? fun e => e.1 = name with
  | some (_, t) => .ok t
  | none => .error ⟨name, s.names⟩

def resolve (s : Settings) (t : Option Target) (top : Overlay) : Options :=
  let below := s.options.over {}
  top.over (match t with
    | some t => t.options.over below
    | none => below)

end Settings
end CommentBlocks
