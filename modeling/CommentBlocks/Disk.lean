import CommentBlocks.Path

/-!
A disk: which locations hold a directory or a file, and the location that relative paths start from. Every
operation says why it fails, and one that fails changes no file.
-/

namespace CommentBlocks

abbrev Location := List Text

def Location.Named (l : Location) : Prop := ∀ n ∈ l, Path.IsName n

instance (l : Location) : Decidable l.Named := inferInstanceAs (Decidable (∀ n ∈ l, _))

inductive Contents where
  | text (text : Text)
  | binary (bytes : List UInt8)
  deriving DecidableEq, Repr

inductive Entry where
  | directory
  | file (contents : Contents)
  deriving DecidableEq, Repr

structure Address where
  location : Location
  named : location.Named
  deriving DecidableEq, Repr

structure Disk where
  entries : List (Address × Entry) := []
  working : Location := []
  deriving DecidableEq, Repr

namespace Disk

inductive Fault where
  | notFound
  | alreadyExists
  | notDirectory
  | isDirectory
  | notText
  deriving DecidableEq, Repr

def Fault.message : Fault → String
  | notFound => "No such file or directory (os error 2)"
  | alreadyExists => "File exists (os error 17)"
  | notDirectory => "Not a directory (os error 20)"
  | isDirectory => "Is a directory (os error 21)"
  | notText => "stream did not contain valid UTF-8"

def lookup? (d : Disk) (l : Location) : Option Entry :=
  if l = [] then some .directory else (d.entries.find? fun e => e.1.location = l).map Prod.snd

/-- Where a location has a piece that is no name, there is no place for an entry. -/
def put (d : Disk) (l : Location) (e : Entry) : Disk :=
  if h : l.Named then { d with entries := (⟨l, h⟩, e) :: d.entries.filter fun x => x.1.location ≠ l } else d

def enter (l : Location) (piece : Text) : Location :=
  match Path.Component.ofPiece? piece with
  | some .up => l.dropLast
  | some (.name n) => l ++ [n]
  | _ => l

def walk (d : Disk) : Location → List Text → Except Fault Location
  | l, [] => .ok l
  | l, piece :: pieces =>
    match d.lookup? l with
    | some .directory => walk d (enter l piece) pieces
    | some (.file _) => .error .notDirectory
    | none => .error .notFound

def start (d : Disk) (p : Path) : Location := if p.isAbsolute then [] else d.working

def locate (d : Disk) (p : Path) : Except Fault Location :=
  if p.text = [] then .error .notFound else d.walk (d.start p) p.pieces

def find (d : Disk) (p : Path) : Except Fault Entry :=
  match d.locate p with
  | .error e => .error e
  | .ok l =>
    match d.lookup? l with
    | some e => .ok e
    | none => .error .notFound

def isDirectory (d : Disk) (p : Path) : Bool :=
  match d.find p with
  | .ok .directory => true
  | _ => false

def isFile (d : Disk) (p : Path) : Bool :=
  match d.find p with
  | .ok (.file _) => true
  | _ => false

def holds (d : Disk) (p : Path) : Bool :=
  match d.find p with
  | .ok _ => true
  | .error _ => false

def read (d : Disk) (p : Path) : Except Fault Text :=
  match d.find p with
  | .error e => .error e
  | .ok .directory => .error .isDirectory
  | .ok (.file (.text t)) => .ok t
  | .ok (.file (.binary _)) => .error .notText

/-- The place of the last piece of a path in an existing directory. A last piece that is no name leads to a
directory. -/
inductive Slot where
  | directory
  | named (location : Location)
  deriving DecidableEq, Repr

def slot (d : Disk) (p : Path) : Except Fault Slot :=
  if p.text = [] then .error .notFound
  else
    match d.walk (d.start p) p.pieces.dropLast with
    | .error e => .error e
    | .ok l =>
      match d.lookup? l with
      | none => .error .notFound
      | some (.file _) => .error .notDirectory
      | some .directory =>
        match p.pieces.getLast?.bind Path.Component.ofPiece? with
        | some (.name n) => .ok (.named (l ++ [n]))
        | _ => .ok .directory

def write (d : Disk) (p : Path) (text : Text) : Except Fault Disk :=
  match d.slot p with
  | .error e => .error e
  | .ok .directory => .error .isDirectory
  | .ok (.named l) =>
    match d.lookup? l with
    | some .directory => .error .isDirectory
    | _ => .ok (d.put l (.file (.text text)))

def makeDirectory (d : Disk) (p : Path) : Except Fault Disk :=
  match d.slot p with
  | .error e => .error e
  | .ok .directory => .error .alreadyExists
  | .ok (.named l) =>
    match d.lookup? l with
    | some _ => .error .alreadyExists
    | none => .ok (d.put l .directory)

/-- A directory that is there already is no failure. -/
def ensureDirectory (d : Disk) (p : Path) : Disk × Except Fault Unit :=
  match d.makeDirectory p with
  | .ok d => (d, .ok ())
  | .error e => (d, if d.isDirectory p then .ok () else .error e)

/-- Makes a directory and, where they are missing, those above it, at most `depth` levels. Directories that
were made before a failure stay. -/
def ensureDirectories : (depth : Nat) → Disk → Path → Disk × Except Fault Unit
  | 0, d, p => d.ensureDirectory p
  | depth + 1, d, p =>
    if p.text = [] then (d, .ok ())
    else
      match d.makeDirectory p, p.parent? with
      | .error .notFound, some q =>
        match ensureDirectories depth d q with
        | (d, .ok ()) => d.ensureDirectory p
        | failed => failed
      | _, _ => d.ensureDirectory p

def makeDirectories (d : Disk) (p : Path) : Disk × Except Fault Unit :=
  ensureDirectories (p.pieces.length + 1) d p

def insertName (n : Text) : List Text → List Text
  | [] => [n]
  | m :: ms =>
    if n = m then m :: ms
    else if Text.precedes n m then n :: m :: ms
    else m :: insertName n ms

def names (d : Disk) (l : Location) : List Text :=
  (d.entries.filterMap fun e =>
    if e.1.location.dropLast = l then e.1.location.getLast? else none).foldr insertName []

def written (before after : Disk) : List (Location × Contents) :=
  after.entries.filterMap fun
    | (⟨l, _⟩, .file c) => if before.lookup? l = some (.file c) then none else some (l, c)
    | (_, .directory) => none

variable {d : Disk} {l m : Location}

theorem named_of_lookup? {e : Entry} (h : d.lookup? l = some e) : l.Named := by
  rw [lookup?] at h
  split at h
  · next hl =>
    subst hl
    exact List.forall_mem_nil _
  · obtain ⟨x, hx, -⟩ := Option.map_eq_some_iff.mp h
    have hl : x.1.location = l := by simpa using List.find?_some hx
    exact hl ▸ x.1.named

theorem put_of_named (h : l.Named) (e : Entry) :
    (d.put l e).entries = (⟨l, h⟩, e) :: d.entries.filter fun x => x.1.location ≠ l := by
  rw [put, dif_pos h]

theorem put_of_not_named (h : ¬ l.Named) (e : Entry) : d.put l e = d := dif_neg h

theorem put_working (d : Disk) (l : Location) (e : Entry) : (d.put l e).working = d.working := by
  rw [put]
  split <;> rfl

theorem lookup?_put_self (h : l ≠ []) (hl : l.Named) (e : Entry) : (d.put l e).lookup? l = some e := by
  simp [lookup?, put_of_named hl, h]

theorem lookup?_put_of_ne (h : m ≠ l) (e : Entry) : (d.put l e).lookup? m = d.lookup? m := by
  by_cases hl : l.Named
  · have hne : ¬ l = m := fun x => h x.symm
    have hp : (fun a : Address × Entry =>
        decide (decide (a.1.location ≠ l) = true ∧ decide (a.1.location = m) = true)) =
          fun a => decide (a.1.location = m) := by
      funext a
      by_cases ha : a.1.location = m <;> simp [ha, h]
    simp only [lookup?, put_of_named hl, List.find?_cons, hne, decide_false, List.find?_filter, hp]
  · rw [put_of_not_named hl]

end Disk
end CommentBlocks
