import CommentBlocks.Batch
import CommentBlocks.Proofs.Places
import Mathlib.Data.List.Basic

namespace CommentBlocks

namespace Disk

variable {d d' d'' : Disk} {p q : Path} {l m : Location} {ps qs : List Text} {e : Entry} {t : Text}

/-- The second disk has the files of the first one and may have more directories. -/
structure AddsDirectories (d d' : Disk) : Prop where
  grows : Grows d d'
  contents : ∀ l, d'.contents? l = d.contents? l

namespace AddsDirectories

lemma refl (d : Disk) : AddsDirectories d d := ⟨Grows.refl d, fun _ => rfl⟩

lemma trans (h : AddsDirectories d d') (h' : AddsDirectories d' d'') : AddsDirectories d d'' :=
  ⟨h.grows.trans h'.grows, fun l => (h'.contents l).trans (h.contents l)⟩

end AddsDirectories

lemma slot_eq_named (h : d.slot p = .ok (.named l)) : l = d.place p ∧ l ≠ [] ∧ l.Named := by
  rw [slot] at h
  split at h
  · cases h
  split at h
  · cases h
  · next k hk =>
    split at h
    · cases h
    · cases h
    · next hdir =>
      split at h
      · next n hn =>
        obtain rfl := Slot.named.inj (Except.ok.inj h)
        obtain ⟨piece, hlast, hpiece⟩ := Option.bind_eq_some_iff.mp hn
        obtain ⟨front, hfront⟩ := List.getLast?_eq_some_iff.mp hlast
        rw [hfront, List.dropLast_concat] at hk
        refine ⟨?_, List.concat_ne_nil _ _, List.forall_mem_append.mpr ⟨named_of_lookup? hdir, ?_⟩⟩
        · rw [place, hfront, List.foldl_concat, ← walk_eq_foldl hk, enter, hpiece]
        · rw [List.forall_mem_singleton]
          exact Path.isName_of_ofPiece? (Text.sep_not_mem_of_mem_cut (List.mem_of_getLast? hlast)) hpiece
      · cases h

lemma addsDirectories_of_makeDirectory (h : d.makeDirectory p = .ok d') : AddsDirectories d d' := by
  rw [makeDirectory] at h
  split at h
  · cases h
  · cases h
  · next l _ =>
    split at h
    · cases h
    · next hl =>
      obtain rfl := Except.ok.inj h
      exact ⟨grows_put_directory hl, contents?_put_directory hl⟩

lemma addsDirectories_ensureDirectory (d : Disk) (p : Path) : AddsDirectories d (d.ensureDirectory p).1 := by
  rw [ensureDirectory]
  split
  · next h => exact addsDirectories_of_makeDirectory h
  · exact AddsDirectories.refl d

lemma addsDirectories_ensureDirectories (n : Nat) (d : Disk) (p : Path) :
    AddsDirectories d (ensureDirectories n d p).1 := by
  induction n generalizing d p with
  | zero => exact addsDirectories_ensureDirectory d p
  | succ n ih =>
    rw [ensureDirectories]
    split
    · exact AddsDirectories.refl d
    · split
      · next q _ _ =>
        have hq := ih d q
        split
        · next d' he =>
          rw [he] at hq
          exact hq.trans (addsDirectories_ensureDirectory d' p)
        · exact hq
      · exact addsDirectories_ensureDirectory d p

lemma write_eq_ok (h : d.write p t = .ok d') : d.lookup? (d.place p) ≠ some .directory ∧ (d.place p).Named ∧
    d' = d.put (d.place p) (.file (.text t)) := by
  rw [write] at h
  split at h
  · cases h
  · cases h
  · next l hs =>
    obtain ⟨rfl, -, hnamed⟩ := slot_eq_named hs
    split at h
    · cases h
    · next hl => exact ⟨hl, hnamed, (Except.ok.inj h).symm⟩

lemma contents?_of_write (h : d.write p t = .ok d') (l : Location) :
    d'.contents? l = if l = d.place p then some (.text t) else d.contents? l := by
  obtain ⟨hl, hnamed, rfl⟩ := write_eq_ok h
  exact contents?_put_file (ne_nil_of_lookup? hl) hnamed _ l

lemma grows_of_write (h : d.write p t = .ok d') : Grows d d' := by
  obtain ⟨hl, -, rfl⟩ := write_eq_ok h
  exact grows_put_file hl

end Disk

namespace Job

open Disk

variable {d d' : Disk} {p : Path} {t : Text}

lemma addsDirectories_makeParent (d : Disk) (p : Path) : AddsDirectories d (makeParent d p).1 := by
  rw [makeParent]
  split
  · exact AddsDirectories.refl d
  · next q _ => exact addsDirectories_ensureDirectories _ d q

lemma addsDirectories_of_save {e : Failure} (h : (save d p t).2 = .error e) :
    AddsDirectories d (save d p t).1 := by
  have hp := addsDirectories_makeParent d p
  rw [save] at h ⊢
  split
  · next he => rwa [he] at hp
  · next d' he =>
    rw [he] at hp
    simp only [he] at h
    split
    · exact hp
    · next hw => simp only [hw, reduceCtorEq] at h

structure Saves (d d' : Disk) (p : Path) (t : Text) : Prop where
  grows : Grows d d'
  contents : ∀ l, d'.contents? l = if l = d.place p then some (.text t) else d.contents? l

lemma saves_of_save (h : (save d p t).2 = .ok ()) : Saves d (save d p t).1 p t := by
  have hp := addsDirectories_makeParent d p
  rw [save] at h ⊢
  split
  · next he => simp only [he, reduceCtorEq] at h
  · next d' he =>
    rw [he] at hp
    simp only [he] at h
    split
    · next hw => simp only [hw, reduceCtorEq] at h
    · next d'' hw =>
      refine ⟨hp.grows.trans (grows_of_write hw), fun l => ?_⟩
      have hl := contents?_of_write hw l
      rwa [hp.grows.place, hp.contents] at hl

lemma grows_save (d : Disk) (p : Path) (t : Text) : Grows d (save d p t).1 := by
  cases h : (save d p t).2 with
  | error e => exact (addsDirectories_of_save h).grows
  | ok u => exact (saves_of_save h).grows

lemma contents?_save_of_ne {l : Location} (h : l ≠ d.place p) (t : Text) :
    (save d p t).1.contents? l = d.contents? l := by
  cases hr : (save d p t).2 with
  | error e => exact (addsDirectories_of_save hr).contents l
  | ok u => rw [(saves_of_save hr).contents, if_neg h]

end Job
end CommentBlocks
