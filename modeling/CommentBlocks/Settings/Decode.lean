import CommentBlocks.Settings
import CommentBlocks.Text.Quoted
import CommentBlocks.Toml.Value

/-!
Settings read from the table of a document. Records are tables without unknown keys, or arrays of their
fields in a fixed order. The first fault in the order of the document is reported; a missing field is noticed
at the end of its table.
-/

namespace CommentBlocks.Settings

open Toml

inductive Shape where
  | integer (number : Int)
  | float (number : Binary64)
  | boolean (truth : Bool)
  | string (text : Text)
  | sequence
  | map
  deriving DecidableEq, Repr

namespace Shape

def ofValue : Value → Shape
  | .string t => string t
  | .integer i => integer i
  | .float x => float x
  | .boolean b => boolean b
  | .date _ => map
  | .array _ => sequence
  | .table _ => map

def text : Shape → String
  | integer i => "integer `" ++ toString i ++ "`"
  | float x => "floating point `" ++ String.ofList x.text ++ "`"
  | boolean b => "boolean `" ++ toString b ++ "`"
  | string t => "string " ++ String.ofList (Text.quoted t)
  | sequence => "sequence"
  | map => "map"

end Shape

inductive Expected where
  | number
  | truth
  | string
  | path
  | sequence
  | map
  | overlay
  | target
  deriving DecidableEq, Repr

def Expected.text : Expected → String
  | number => "usize"
  | truth => "a boolean"
  | string => "a string"
  | path => "path string"
  | sequence => "a sequence"
  | map => "a map"
  | overlay => "struct OptionsOverlay"
  | target => "struct Target"

inductive Fault where
  | unknownField (name : Text) (known : List String)
  | missingField (name : String)
  | invalidType (found : Shape) (expected : Expected)
  | invalidValue (found : Shape) (expected : Expected)
  | invalidLength (length : Nat) (expected : Expected) (fields : Nat)
  deriving DecidableEq, Repr

namespace Fault

def alternatives (known : List String) : String :=
  let ticked := known.map fun name => "`" ++ name ++ "`"
  match ticked with
  | [a, b] => a ++ " or " ++ b
  | ticked => "one of " ++ ", ".intercalate ticked

def message : Fault → String
  | unknownField name known =>
    "unknown field `" ++ String.ofList name ++ "`, expected " ++ alternatives known
  | missingField name => "missing field `" ++ name ++ "`"
  | invalidType found expected => "invalid type: " ++ found.text ++ ", expected " ++ expected.text
  | invalidValue found expected => "invalid value: " ++ found.text ++ ", expected " ++ expected.text
  | invalidLength length expected fields =>
    "invalid length " ++ toString length ++ ", expected " ++ expected.text ++ " with " ++ toString fields ++
      " elements"

end Fault

abbrev Decoded (α : Type) := Except Fault α

def decodeTruth : Value → Decoded Bool
  | .boolean b => .ok b
  | v => .error (.invalidType (.ofValue v) .truth)

def decodeNumber : Value → Decoded Nat
  | .integer i => if i < 0 then .error (.invalidValue (.integer i) .number) else .ok i.toNat
  | v => .error (.invalidType (.ofValue v) .number)

def decodeText : Value → Decoded Text
  | .string t => .ok t
  | v => .error (.invalidType (.ofValue v) .string)

def decodePath : Value → Decoded Path
  | .string t => .ok ⟨t⟩
  | v => .error (.invalidType (.ofValue v) .path)

def decodeTexts : Value → Decoded (List Text)
  | .array vs => vs.mapM decodeText
  | v => .error (.invalidType (.ofValue v) .sequence)

def dateKey : Text := "$__toml_private_datetime".toList

def overlayFields : List String := ["remove_directive_lines", "padding"]
def targetFields : List String := ["cwd", "files", "dest", "options"]
def settingsFields : List String := ["options", "targets"]

def overlayEntry (o : Overlay) (e : Text × Value) : Decoded Overlay :=
  if e.1 = "remove_directive_lines".toList then do
    return { o with removeDirectiveLines := some (← decodeTruth e.2) }
  else if e.1 = "padding".toList then do return { o with padding := some (← decodeNumber e.2) }
  else .error (.unknownField e.1 overlayFields)

def decodeOverlay : Value → Decoded Overlay
  | .table es => es.foldlM overlayEntry {}
  | .array [] => .error (.invalidLength 0 .overlay 2)
  | .array [a] => do
    let _ ← decodeTruth a
    .error (.invalidLength 1 .overlay 2)
  | .array (a :: b :: _) => do
    let remove ← decodeTruth a
    let padding ← decodeNumber b
    return ⟨some remove, some padding⟩
  | .date _ => .error (.unknownField dateKey overlayFields)
  | v => .error (.invalidType (.ofValue v) .overlay)

/-- A target before its table has ended: the patterns may still be missing. -/
structure TargetDraft where
  base : Option Path := none
  patterns : Option (List Text) := none
  destination : Option Path := none
  options : Overlay := {}

def targetEntry (t : TargetDraft) (e : Text × Value) : Decoded TargetDraft :=
  if e.1 = "cwd".toList then do return { t with base := some (← decodePath e.2) }
  else if e.1 = "files".toList then do return { t with patterns := some (← decodeTexts e.2) }
  else if e.1 = "dest".toList then do return { t with destination := some (← decodePath e.2) }
  else if e.1 = "options".toList then do return { t with options := ← decodeOverlay e.2 }
  else .error (.unknownField e.1 targetFields)

def TargetDraft.complete (t : TargetDraft) : Decoded Target :=
  match t.patterns with
  | some patterns => .ok ⟨t.base, patterns, t.destination, t.options⟩
  | none => .error (.missingField "files")

def decodeFirst {α : Type} (decode : Value → Decoded α) : List Value → Decoded (Option α)
  | [] => .ok none
  | v :: _ => do return some (← decode v)

def decodeTarget : Value → Decoded Target
  | .table es => do (← es.foldlM targetEntry {}).complete
  | .array vs => do
    let base ← decodeFirst decodePath vs
    match ← decodeFirst decodeTexts (vs.drop 1) with
    | none => .error (.invalidLength 1 .target 4)
    | some patterns =>
      let destination ← decodeFirst decodePath (vs.drop 2)
      let options ← decodeFirst decodeOverlay (vs.drop 3)
      return ⟨base, patterns, destination, options.getD {}⟩
  | .date _ => .error (.unknownField dateKey targetFields)
  | v => .error (.invalidType (.ofValue v) .target)

def decodeTargets : Value → Decoded (List (Text × Target))
  | .table es => es.foldlM (fun ts e => do return insertTarget e.1 (← decodeTarget e.2) ts) []
  | .date t => .error (.invalidType (.string t) .target)
  | v => .error (.invalidType (.ofValue v) .map)

def settingsEntry (s : Settings) (e : Text × Value) : Decoded Settings :=
  if e.1 = "options".toList then do return { s with options := ← decodeOverlay e.2 }
  else if e.1 = "targets".toList then do return { s with targets := ← decodeTargets e.2 }
  else .error (.unknownField e.1 settingsFields)

def decode (root : Path) (es : Table) : Decoded Settings := es.foldlM settingsEntry { root := root }

def optionsEntry (o : Options) (e : Text × Value) : Decoded Options :=
  if e.1 = "remove_directive_lines".toList then do
    return { o with removeDirectiveLines := ← decodeTruth e.2 }
  else if e.1 = "padding".toList then do return { o with padding := ← decodeNumber e.2 }
  else .ok o

def decodeOptions (es : Table) : Decoded Options := es.foldlM optionsEntry {}

end CommentBlocks.Settings
