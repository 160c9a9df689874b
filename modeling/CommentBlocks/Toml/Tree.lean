import CommentBlocks.Toml.Value

/-!
Tables under construction. A table is made by a header of its own, by the header of a table inside it, or by
a dotted key; what may still be added to it depends on which of these made it. No key is given twice.
-/

namespace CommentBlocks.Toml

abbrev Key := List Text

inductive Origin where
  | header
  | innerHeader
  | dottedKey
  deriving DecidableEq, Repr

inductive Node where
  | leaf (value : Value)
  | table (origin : Origin) (entries : List (Text × Node))
  | elements (tables : List (List (Text × Node)))

namespace Node

abbrev Entries := List (Text × Node)

mutual

def value : Node → Value
  | leaf v => v
  | table _ es => .table (tableOf es)
  | elements ts => .array (arrayOf ts)

def tableOf : Entries → Table
  | [] => []
  | (k, n) :: es => (k, n.value) :: tableOf es

def arrayOf : List Entries → List Value
  | [] => []
  | es :: ts => .table (tableOf es) :: arrayOf ts

end

def find? (k : Text) (es : Entries) : Option Node := (es.find? fun e => e.1 = k).map Prod.snd

def set (k : Text) (n : Node) (es : Entries) : Entries := es.map fun e => if e.1 = k then (k, n) else e

def erase (k : Text) (es : Entries) : Entries := es.filter fun e => e.1 ≠ k

def onLast? (f : Entries → Option Entries) : List Entries → Option (List Entries)
  | [] => none
  | [t] => (f t).map ([·])
  | t :: ts => (onLast? f ts).map (t :: ·)

/-- Gives `v` to the key with the parts `path` and `k`. Tables on the way are made by this key or by another
dotted key before it. -/
def assign? (k : Text) (v : Value) : (path : Key) → Entries → Option Entries
  | [], es => if (find? k es).isSome then none else some (es ++ [(k, leaf v)])
  | p :: ps, es =>
    match find? p es with
    | none => (assign? k v ps []).map fun sub => es ++ [(p, table .dottedKey sub)]
    | some (table .header _) => none
    | some (table .innerHeader sub) =>
      if ps.isEmpty then none
      else (assign? k v ps sub).map fun sub => set p (table .innerHeader sub) es
    | some (table .dottedKey sub) => (assign? k v ps sub).map fun sub => set p (table .dottedKey sub) es
    | some (elements ts) =>
      if ps.isEmpty then none
      else (onLast? (assign? k v ps) ts).map fun ts => set p (elements ts) es
    | some (leaf _) => none

/-- Changes the table at `path`, making the tables that are missing on the way. In an array of tables the way
leads through the last one. -/
def within? (f : Entries → Option Entries) : (path : Key) → Entries → Option Entries
  | [], es => f es
  | p :: ps, es =>
    match find? p es with
    | none => (within? f ps []).map fun sub => es ++ [(p, table .innerHeader sub)]
    | some (table o sub) => (within? f ps sub).map fun sub => set p (table o sub) es
    | some (elements ts) => (onLast? (within? f ps) ts).map fun ts => set p (elements ts) es
    | some (leaf _) => none

/-- A table that only headers of inner tables have made so far moves to the end when its own header comes. -/
def openTable? (k : Text) (es : Entries) : Option Entries :=
  match find? k es with
  | none => some (es ++ [(k, table .header [])])
  | some (table .innerHeader sub) => some (erase k es ++ [(k, table .header sub)])
  | some _ => none

def openElement? (k : Text) (es : Entries) : Option Entries :=
  match find? k es with
  | none => some (es ++ [(k, elements [[]])])
  | some (elements ts) => some (set k (elements (ts ++ [[]])) es)
  | some _ => none

def atLast? {α : Type} (f : Text → Key → Option α) (key : Key) : Option α :=
  match key.reverse with
  | [] => none
  | k :: ps => f k ps.reverse

end Node

def tableOfAssignments? (assignments : List (Key × Value)) : Option Table :=
  (assignments.foldlM (fun es (key, v) => Node.atLast? (fun k path => Node.assign? k v path es) key) []).map
    Node.tableOf

inductive Statement where
  | table (path : Key)
  | element (path : Key)
  | assign (key : Key) (value : Value)

structure Draft where
  entries : Node.Entries := []
  path : Key := []

namespace Draft

def add? (d : Draft) : Statement → Option Draft
  | .table path =>
    Node.atLast? (fun k ps => (Node.within? (Node.openTable? k) ps d.entries).map (⟨·, path⟩)) path
  | .element path =>
    Node.atLast? (fun k ps => (Node.within? (Node.openElement? k) ps d.entries).map (⟨·, path⟩)) path
  | .assign key v =>
    Node.atLast? (fun k ps => (Node.within? (Node.assign? k v ps) d.path d.entries).map (⟨·, d.path⟩))
      key

end Draft

def tableOfStatements? (statements : List Statement) : Option Table :=
  (statements.foldlM Draft.add? {}).map fun d => Node.tableOf d.entries

end CommentBlocks.Toml
