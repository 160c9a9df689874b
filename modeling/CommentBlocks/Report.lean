import CommentBlocks.Document
import CommentBlocks.Glob.Search
import CommentBlocks.Settings.Read

namespace CommentBlocks

structure Summary where
  processed : Nat := 0
  changed : Nat := 0
  warnings : Nat := 0
  deriving DecidableEq, Repr, Inhabited

def Summary.add (s t : Summary) : Summary :=
  ⟨s.processed + t.processed, s.changed + t.changed, s.warnings + t.warnings⟩

theorem Summary.add_assoc (s t u : Summary) : (s.add t).add u = s.add (t.add u) := by
  simp [Summary.add, Nat.add_assoc]

inductive Failure where
  | file (path : Path) (fault : Disk.Fault)
  | document (path : Path) (error : InvalidCommand)
  | settings (path : Path) (error : Settings.ReadError)
  | noSettings (path : Path)
  | pattern (error : Glob.PatternError)
  | unknownTarget (error : UnknownTarget)
  | noTargets (path : Path)
  | notUpToDate (count : Nat)
  deriving DecidableEq, Repr

def Failure.message : Failure → String
  | file p e => "I/O error at " ++ toString p ++ ": " ++ e.message
  | document p e => toString p ++ ": " ++ e.message
  | settings p e => "Invalid configuration in " ++ toString p ++ ": " ++ e.message
  | noSettings p => "Configuration file not found: " ++ toString p
  | pattern e => "Invalid file pattern: " ++ e.message
  | unknownTarget e => e.message
  | noTargets p => "No targets defined in " ++ toString p
  | notUpToDate n => toString n ++ " file(s) are not up to date"

inductive Notice where
  | warning (source : Path) (warning : Warning)
  | difference (text : Text)
  | wouldChange (source : Path)
  | running (target : Text) (files : Nat)
  deriving DecidableEq, Repr

def Notice.isWarning : Notice → Bool
  | warning _ _ => true
  | _ => false

def Notice.text : Notice → String
  | warning p w => "warning: " ++ toString p ++ ": " ++ w.message ++ "\n"
  | difference t => String.ofList t
  | wouldChange p => "would change " ++ toString p ++ "\n"
  | running t n =>
    "=> Running target " ++ String.ofList t ++ " (" ++ toString n ++ " file" ++ (if n = 1 then "" else "s") ++
      ")\n"

structure Report where
  disk : Disk
  notices : List Notice := []
  result : Except Failure Summary
  deriving Repr

namespace Report

def fail (d : Disk) (e : Failure) : Report := ⟨d, [], .error e⟩

def tell (ns : List Notice) (r : Report) : Report := { r with notices := ns ++ r.notices }

def andThen (r : Report) (next : Disk → Report) : Report :=
  match r.result with
  | .error _ => r
  | .ok s =>
    let t := next r.disk
    ⟨t.disk, r.notices ++ t.notices, t.result.map s.add⟩

theorem andThen_of_error {r : Report} {e : Failure} (h : r.result = .error e) (next : Disk → Report) :
    r.andThen next = r := by
  simp [andThen, h]

theorem andThen_of_ok {r : Report} {s : Summary} (h : r.result = .ok s) (next : Disk → Report) :
    r.andThen next =
      ⟨(next r.disk).disk, r.notices ++ (next r.disk).notices, (next r.disk).result.map s.add⟩ := by
  simp [andThen, h]

end Report
end CommentBlocks
