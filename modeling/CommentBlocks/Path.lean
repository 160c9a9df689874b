import CommentBlocks.Text

/-!
Paths are texts with slashes. Two paths are the same if they have the same components: repeated slashes, a
slash at the end and `.` pieces after the first do not count, `..` does.
-/

namespace CommentBlocks

structure Path where
  text : Text
  deriving DecidableEq, Repr, Inhabited

namespace Path

instance : ToString Path := ⟨fun p => String.ofList p.text⟩

inductive Component where
  | root
  | here
  | up
  | name (text : Text)
  deriving DecidableEq, Repr

def isAbsolute (p : Path) : Bool := p.text.head? = some '/'

def pieces (p : Path) : List Text := Text.cut '/' p.text

def ofPieces (ps : List Text) : Path := ⟨Text.glue ['/'] ps⟩

def Component.ofPiece? (piece : Text) : Option Component :=
  if piece = [] ∨ piece = ['.'] then none
  else if piece = ['.', '.'] then some up
  else some (name piece)

def IsName (piece : Text) : Prop := '/' ∉ piece ∧ Component.ofPiece? piece = some (.name piece)

instance (piece : Text) : Decidable (IsName piece) := inferInstanceAs (Decidable (_ ∧ _))

def isIdle (piece : Text) : Bool := (Component.ofPiece? piece).isNone

def components (p : Path) : List Component :=
  match p.pieces with
  | [] => []
  | first :: rest =>
    let front :=
      if p.isAbsolute then [.root]
      else if first = ['.'] then [.here]
      else (Component.ofPiece? first).toList
    front ++ rest.filterMap Component.ofPiece?

def same (p q : Path) : Bool := p.components = q.components

def join (p q : Path) : Path :=
  if q.isAbsolute ∨ p.text = [] then q
  else if p.text.getLast? = some '/' then ⟨p.text ++ q.text⟩
  else ⟨p.text ++ ('/' :: q.text)⟩

def dropIdleEnd (ps : List Text) : List Text := (ps.reverse.dropWhile isIdle).reverse

def parent? (p : Path) : Option Path :=
  match p.pieces with
  | [] => none
  | first :: rest =>
    match dropIdleEnd rest with
    | [] => if first = [] then none else some ⟨[]⟩
    | kept =>
      match first, dropIdleEnd kept.dropLast with
      | [], [] => some ⟨['/']⟩
      | first, before => some (ofPieces (first :: before))

def fileName? (p : Path) : Option Text :=
  match p.components.getLast? with
  | some (.name n) => some n
  | _ => none

def afterComponents : (count : Nat) → List Text → List Text
  | 0, ps => ps
  | _ + 1, [] => []
  | count + 1, p :: ps => if isIdle p then afterComponents (count + 1) ps else afterComponents count ps

def trimEnd (p : Path) : Path :=
  match p.pieces with
  | [] => p
  | first :: rest =>
    match first, dropIdleEnd rest with
    | [], [] => if p.isAbsolute then ⟨['/']⟩ else p
    | first, kept => ofPieces (first :: kept)

def stripPrefix? (p base : Path) : Option Path :=
  if base.components.isPrefixOf p.components then
    match base.components.length with
    | 0 => some p.trimEnd
    | count + 1 => some (ofPieces (dropIdleEnd ((afterComponents count p.pieces.tail).dropWhile isIdle)))
  else none

namespace Component

variable {piece n : Text} {c : Component}

theorem ofPiece?_eq_name_iff : ofPiece? piece = some (.name n) ↔
    (piece ≠ [] ∧ piece ≠ ['.'] ∧ piece ≠ ['.', '.']) ∧ piece = n := by
  rw [ofPiece?]
  split
  · next hidle => rcases hidle with h | h <;> simp [h]
  · next hidle =>
    split
    · next hup => simp [hup]
    · next hup => simp [hup, not_or.mp hidle]

theorem ofPiece?_eq_up_iff : ofPiece? piece = some .up ↔ piece = ['.', '.'] := by
  rw [ofPiece?]
  split
  · next hidle => rcases hidle with h | h <;> simp [h]
  · split
    · next hup => simp [hup]
    · next hup => simp [hup]

theorem up_or_name_of_ofPiece? (h : ofPiece? piece = some c) : c = .up ∨ c = .name piece := by
  rw [ofPiece?] at h
  split at h
  · cases h
  · split at h
    · exact Or.inl (Option.some.inj h).symm
    · exact Or.inr (Option.some.inj h).symm

end Component

theorem isName_of_ofPiece? {piece n : Text} (hs : '/' ∉ piece) (h : Component.ofPiece? piece = some (.name n)) :
    IsName n := by
  obtain rfl := (Component.ofPiece?_eq_name_iff.mp h).2
  exact ⟨hs, h⟩

theorem same_iff {p q : Path} : p.same q = true ↔ p.components = q.components := by
  simp [same]

theorem same_refl (p : Path) : p.same p = true := same_iff.2 rfl

theorem join_of_isAbsolute {q : Path} (h : q.isAbsolute = true) (p : Path) : p.join q = q := by
  simp [join, h]

end Path
end CommentBlocks
