import CommentBlocks.Proofs.Saving
import Mathlib.Data.List.DropRight

namespace CommentBlocks

namespace Path

variable {p q : Path} {ps : List Text} {first : Text}

lemma dropIdleEnd_prefix_self (ps : List Text) : dropIdleEnd ps <+: ps :=
  List.rdropWhile_prefix (fun piece => isIdle piece) ps

lemma exists_append_of_dropIdleEnd (h : dropIdleEnd ps ≠ []) :
    ∃ x rest, ps = dropIdleEnd (dropIdleEnd ps).dropLast ++ x :: rest := by
  have hshort := List.length_pos_of_ne_nil h
  have hdrop := (dropIdleEnd_prefix_self (dropIdleEnd ps).dropLast).length_le
  have hpre := ((dropIdleEnd_prefix_self (dropIdleEnd ps).dropLast).trans (List.dropLast_prefix _)).trans
    (dropIdleEnd_prefix_self ps)
  have hlen := (dropIdleEnd_prefix_self ps).length_le
  obtain ⟨rest, hrest⟩ := hpre
  cases rest with
  | nil =>
    have hl := congrArg List.length hrest
    rw [List.length_dropLast] at hdrop
    simp only [List.append_nil] at hl
    omega
  | cons x rest => exact ⟨x, rest, hrest.symm⟩

lemma isAbsolute_iff : p.isAbsolute = true ↔ ∃ x rest, p.pieces = [] :: x :: rest := by
  simp only [isAbsolute, decide_eq_true_eq, pieces]
  cases p.text with
  | nil => simp [Text.cut]
  | cons c r =>
    by_cases hc : c = '/'
    · subst hc
      obtain ⟨x, xs, hx⟩ := List.exists_cons_of_ne_nil (Text.cut_ne_nil '/' r)
      simp [Text.cut_cons_sep, hx]
    · obtain ⟨x, xs, _, hx⟩ := Text.cut_cons_of_ne hc r
      simp [hc, hx]

lemma pieces_ofPieces (hne : ps ≠ []) (h : ps ⊆ p.pieces) : (ofPieces ps).pieces = ps :=
  Text.cut_glue hne fun _ hp => Text.sep_not_mem_of_mem_cut (h hp)

lemma parent?_cases (h : p.parent? = some q) :
    q.text = [] ∨ q = ⟨['/']⟩ ∨ q.isAbsolute = p.isAbsolute ∧ ∃ x rest, p.pieces = q.pieces ++ x :: rest := by
  obtain ⟨first, rest, hpieces⟩ := List.exists_cons_of_ne_nil (Text.cut_ne_nil '/' p.text)
  rw [parent?, show p.pieces = first :: rest from hpieces] at h
  by_cases hkept : dropIdleEnd rest = []
  · simp only [hkept] at h
    split at h
    · cases h
    · obtain rfl := Option.some.inj h
      exact Or.inl rfl
  obtain ⟨x, after, hrest⟩ := exists_append_of_dropIdleEnd hkept
  simp only at h
  generalize hbefore : dropIdleEnd (dropIdleEnd rest).dropLast = before at hrest h
  by_cases hroot : first = [] ∧ before = []
  · simp only [hroot.1, hroot.2, Option.some.injEq] at h
    exact Or.inr (Or.inl h.symm)
  · obtain rfl : ofPieces (first :: before) = q := by
      split at h <;> simp_all
    have hp : p.pieces = first :: before ++ x :: after := by rw [pieces, hpieces, hrest, List.cons_append]
    have hq : (ofPieces (first :: before)).pieces = first :: before :=
      pieces_ofPieces (p := p) (List.cons_ne_nil _ _) (hp ▸ List.subset_append_left _ _)
    refine Or.inr (Or.inr ⟨?_, x, after, by rw [hq, hp]⟩)
    rw [Bool.eq_iff_iff, isAbsolute_iff, isAbsolute_iff, hq, hp]
    cases before <;> simp_all

end Path

namespace Disk

variable {d d' : Disk} {p q : Path} {l m : Location} {t : Text} {e : Entry}

lemma isDirectory_root (d : Disk) : d.isDirectory ⟨['/']⟩ = true := rfl

lemma isDirectory_parent (h : d.find p = .ok e) (hq : p.parent? = some q) :
    q.text = [] ∨ d.isDirectory q = true := by
  rcases Path.parent?_cases hq with hn | rfl | ⟨ha, x, rest, hp⟩
  · exact Or.inl hn
  · exact Or.inr (isDirectory_root d)
  · by_cases hn : q.text = []
    · exact Or.inl hn
    have hw := (locate_eq_ok_iff.mp (find_eq_ok_iff.mp h).1).2
    rw [hp, walk_append_eq_ok_iff] at hw
    obtain ⟨k, hk, hx⟩ := hw
    have hs : d.start q = d.start p := by rw [start, start, ha]
    have hl : d.locate q = .ok k := locate_eq_ok_iff.mpr ⟨hn, hs ▸ hk⟩
    obtain rfl := eq_place_of_locate hl
    exact Or.inr (isDirectory_iff.mpr (find_eq_ok_iff.mpr ⟨hl, (walk_cons_eq_ok_iff.mp hx).1⟩))

lemma makeDirectory_of_isDirectory (h : d.isDirectory p = true) : d.makeDirectory p = .error .alreadyExists := by
  obtain ⟨hl, he⟩ := find_eq_ok_iff.mp (isDirectory_iff.mp h)
  obtain ⟨hp, hw⟩ := locate_eq_ok_iff.mp hl
  obtain ⟨front, last, hfront⟩ : ∃ front last, p.pieces = front ++ [last] :=
    ⟨_, _, (List.dropLast_concat_getLast (pieces_ne_nil p)).symm⟩
  have hplace : d.place p = enter (front.foldl enter (d.start p)) last := by
    rw [place, hfront, List.foldl_concat]
  rw [hfront, walk_append_eq_ok_iff] at hw
  obtain ⟨k, hk, hlast⟩ := hw
  have hdir := (walk_cons_eq_ok_iff.mp hlast).1
  rw [← walk_eq_foldl hk] at hplace
  rw [makeDirectory, slot, if_neg hp, hfront, List.dropLast_concat, hk]
  simp only [hdir, List.getLast?_concat, Option.bind_some]
  cases hpiece : Path.Component.ofPiece? last with
  | none => rfl
  | some x =>
    cases x with
    | name n =>
      rw [enter, hpiece] at hplace
      simp only [← hplace, he]
    | _ => rfl

lemma makeDirectories_of_isDirectory (h : d.isDirectory p = true) : d.makeDirectories p = (d, .ok ()) := by
  have hm := makeDirectory_of_isDirectory h
  rw [makeDirectories, ensureDirectories]
  split
  · rfl
  · simp only [hm, ensureDirectory, h, if_true]

lemma makeDirectories_of_text_nil (h : p.text = []) : d.makeDirectories p = (d, .ok ()) := by
  rw [makeDirectories, ensureDirectories, if_pos h]

structure SameShape (d d' : Disk) : Prop where
  grows : Grows d d'
  shrinks : Grows d' d

namespace SameShape

lemma refl (d : Disk) : SameShape d d := ⟨Grows.refl d, Grows.refl d⟩

lemma trans {d'' : Disk} (h : SameShape d d') (h' : SameShape d' d'') : SameShape d d'' :=
  ⟨h.grows.trans h'.grows, h'.shrinks.trans h.shrinks⟩

end SameShape

lemma sameShape_put_file {c c' : Contents} (h : d.lookup? l = some (.file c)) :
    SameShape d (d.put l (.file c')) := by
  have hd : d.lookup? l ≠ some .directory := by simp [h]
  refine ⟨grows_put_file hd, (put_working d l _).symm, fun m hm => ?_, fun m c'' hm => ?_⟩
  · by_cases hl : m = l
    · subst hl
      rw [lookup?_put_self (ne_nil_of_lookup? hd) (named_of_lookup? h)] at hm
      cases hm
    · rwa [lookup?_put_of_ne hl] at hm
  · by_cases hl : m = l
    · exact ⟨c, hl ▸ h⟩
    · exact ⟨c'', by rwa [lookup?_put_of_ne hl] at hm⟩

end Disk

namespace Job

open Disk

variable {d : Disk} {p : Path} {t : Text} {e : Entry}

lemma makeParent_of_find (h : d.find p = .ok e) : makeParent d p = (d, .ok ()) := by
  rw [makeParent]
  split
  · rfl
  · next q hq =>
    rcases isDirectory_parent h hq with hn | hd
    · rw [makeDirectories_of_text_nil hn]
      rfl
    · rw [makeDirectories_of_isDirectory hd]
      rfl

lemma sameShape_save (h : d.isFile p = true) (t : Text) : SameShape d (save d p t).1 := by
  obtain ⟨c, hf⟩ := isFile_iff.mp h
  rw [save, makeParent_of_find hf]
  cases hw : d.write p t with
  | error e =>
    simp only [hw]
    exact SameShape.refl d
  | ok d' =>
    obtain ⟨-, -, rfl⟩ := write_eq_ok hw
    simp only [hw]
    exact sameShape_put_file (find_eq_ok_iff.mp hf).2

end Job
end CommentBlocks
