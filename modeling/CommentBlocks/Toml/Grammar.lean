import CommentBlocks.Toml.Numbers
import CommentBlocks.Toml.Tree

namespace CommentBlocks.Toml
namespace Grammar

/-- A key has fewer parts than this, and values are nested less deep. -/
def limit : Nat := 80

def isBare (c : Char) : Bool := c.isAlphanum || c = '_' || c = '-'

def simpleKey? : Text → Option (Text × Text)
  | [] => none
  | c :: r =>
    if c = Strings.quote then Strings.basic? r
    else if c = Strings.apostrophe then Strings.literal? r
    else if isBare c then some ((c :: r).takeWhile isBare, (c :: r).dropWhile isBare)
    else none

def keyParts? : Nat → Text → Option (Key × Text)
  | 0, _ => none
  | n + 1, s => do
    let (part, s) ← simpleKey? (skipLayout s)
    match skipLayout s with
    | '.' :: r =>
      let (parts, r) ← keyParts? n r
      some (part :: parts, r)
    | r => some ([part], r)

def key? (s : Text) : Option (Key × Text) := keyParts? (limit - 1) s

def skipFiller? : (inComment : Bool) → Text → Option Text
  | inComment, [] => if inComment then none else some []
  | _, '\n' :: r => skipFiller? false r
  | _, '\r' :: '\n' :: r => skipFiller? false r
  | true, c :: r => if isInline c then skipFiller? true r else none
  | false, c :: r =>
    if c = '#' then skipFiller? true r
    else if isLayout c then skipFiller? false r
    else some (c :: r)

def items? (value? : Text → Option (Value × Text)) : Nat → Text → Option (List Value × Text)
  | 0, _ => none
  | n + 1, s => do
    match ← skipFiller? false s with
    | ']' :: r => some ([], r)
    | s =>
      let (v, s) ← value? s
      match ← skipFiller? false s with
      | ',' :: r =>
        let (vs, r) ← items? value? n r
        some (v :: vs, r)
      | ']' :: r => some ([v], r)
      | _ => none

def assignment? (value? : Text → Option (Value × Text)) (s : Text) : Option ((Key × Value) × Text) := do
  let (key, s) ← key? s
  let s ← Text.after? ['='] s
  let (v, s) ← value? (skipLayout s)
  some ((key, v), skipLayout s)

def openingBrace : Char := Char.ofNat 0x7B
def closingBrace : Char := Char.ofNat 0x7D

def fields? (value? : Text → Option (Value × Text)) : Nat → Text → Option (List (Key × Value) × Text)
  | 0, _ => none
  | n + 1, s => do
    let (a, s) ← assignment? value? s
    match s with
    | ',' :: r =>
      let (as, r) ← fields? value? n r
      some (a :: as, r)
    | r =>
      let r ← Text.after? [closingBrace] r
      some ([a], r)

def inlineTable? (value? : Text → Option (Value × Text)) (s : Text) : Option (Value × Text) := do
  match Text.after? [closingBrace] (skipLayout s) with
  | some r => some (.table [], r)
  | none =>
    let (assignments, r) ← fields? value? s.length s
    some (.table (← tableOfAssignments? assignments), r)

def value? : (depth : Nat) → Text → Option (Value × Text)
  | 0, s => Numbers.scalar? s
  | depth + 1, s =>
    match s with
    | [] => none
    | c :: r =>
      if c = '[' then (items? (value? depth) s.length r).map fun (vs, r) => (.array vs, r)
      else if c = openingBrace then inlineTable? (value? depth) r
      else Numbers.scalar? s

def lineEnd? (s : Text) : Option Text :=
  let s := match skipLayout s with
    | '#' :: r => r.dropWhile isInline
    | s => s
  if s.isEmpty then some [] else afterNewline? s

def header? (s : Text) : Option (Statement × Text) :=
  match s with
  | '[' :: '[' :: r => do
    let (path, r) ← key? r
    let r ← Text.after? [']', ']'] r
    some (.element path, ← lineEnd? r)
  | '[' :: r => do
    let (path, r) ← key? r
    let r ← Text.after? [']'] r
    some (.table path, ← lineEnd? r)
  | _ => none

def statement? (s : Text) : Option (Statement × Text) :=
  match s with
  | '[' :: _ => header? s
  | s => do
    let ((key, v), r) ← assignment? (value? (limit - 1)) s
    some (.assign key v, ← lineEnd? r)

def statements? : Nat → Text → Option (List Statement)
  | 0, s => if s.isEmpty then some [] else none
  | n + 1, s =>
    match skipLayout s with
    | [] => some []
    | '#' :: r => do statements? n (← lineEnd? ('#' :: r))
    | s =>
      match afterNewline? s with
      | some r => statements? n r
      | none => do
        let (x, r) ← statement? s
        some (x :: (← statements? n r))

end Grammar

/-- The table that a text describes, `none` if it is not well-formed. A byte order mark at its start does
not count. -/
def parse? (s : Text) : Option Table :=
  let s := if s.head? = some (Char.ofNat 0xFEFF) then s.tail else s
  (Grammar.statements? s.length s).bind tableOfStatements?

end CommentBlocks.Toml
