import CommentBlocks.Expansion
import CommentBlocks.Proofs.Overwriting
import CommentBlocks.Proofs.Results
import CommentBlocks.Proofs.Text.Order
import Mathlib.Data.List.Lex
import Mathlib.Data.Char
import Mathlib.Order.MinMax

/-! The files of a target depend on the shape of the disk alone. Patterns are compared with names and ask what is a
directory; none of this looks into a file. -/

namespace CommentBlocks

namespace Disk

variable {d d' : Disk} {p : Path} {l : Location} {n : Text} {ns : List Text}

lemma mem_insertName {m : Text} : m ∈ insertName n ns ↔ m = n ∨ m ∈ ns := by
  induction ns with
  | nil => simp [insertName]
  | cons k ns ih =>
    rw [insertName]
    split_ifs with hk hlt
    · simp [hk]
    · simp
    · simp only [List.mem_cons, ih]
      tauto

lemma pairwise_insertName (h : ns.Pairwise (· < ·)) : (insertName n ns).Pairwise (· < ·) := by
  induction ns with
  | nil => exact List.pairwise_singleton _ n
  | cons k ns ih =>
    obtain ⟨hk, hns⟩ := List.pairwise_cons.mp h
    rw [insertName]
    split_ifs with heq hlt
    · exact h
    · rw [Text.precedes_iff_lt] at hlt
      exact List.pairwise_cons.mpr ⟨List.forall_mem_cons.mpr ⟨hlt, fun m hm => hlt.trans (hk m hm)⟩, h⟩
    · rw [Text.precedes_iff_lt] at hlt
      refine List.pairwise_cons.mpr ⟨fun m hm => ?_, ih hns⟩
      rcases mem_insertName.mp hm with rfl | hm
      · exact lt_of_le_of_ne (not_lt.mp hlt) (Ne.symm heq)
      · exact hk m hm

lemma lookup?_isSome_iff (h : l ≠ []) : (d.lookup? l).isSome ↔ ∃ e ∈ d.entries, e.1.location = l := by
  simp [lookup?, h]

lemma mem_names_iff : n ∈ d.names l ↔ (d.lookup? (l ++ [n])).isSome := by
  have hfold : ∀ ns : List Text, n ∈ ns.foldr insertName [] ↔ n ∈ ns := by
    intro ns
    induction ns with
    | nil => simp
    | cons k ns ih => rw [List.foldr_cons, mem_insertName, ih, List.mem_cons]
  rw [names, hfold, List.mem_filterMap, lookup?_isSome_iff (List.concat_ne_nil _ _)]
  refine exists_congr fun e => and_congr_right fun _ => ?_
  constructor
  · intro h
    split at h
    · next hl => rw [← hl, List.dropLast_append_getLast? n h]
    · cases h
  · intro h
    simp [h]

lemma pairwise_names (d : Disk) (l : Location) : (d.names l).Pairwise (· < ·) := by
  rw [names]
  induction d.entries.filterMap fun e => if e.1.location.dropLast = l then e.1.location.getLast? else none with
  | nil => exact List.Pairwise.nil
  | cons n ns ih => exact pairwise_insertName ih

lemma names_eq_of_isSome {l' : Location}
    (h : ∀ n, (d'.lookup? (l' ++ [n])).isSome = (d.lookup? (l ++ [n])).isSome) : d'.names l' = d.names l := by
  have hperm : (d'.names l').Perm (d.names l) := by
    refine (List.perm_ext_iff_of_nodup ((pairwise_names d' l').imp ne_of_lt)
      ((pairwise_names d l).imp ne_of_lt)).mpr ?_
    intro n
    rw [mem_names_iff, mem_names_iff, h]
  exact hperm.eq_of_pairwise (fun a b _ _ hab hba => absurd hba (lt_asymm hab)) (pairwise_names d' l')
    (pairwise_names d l)

lemma Grows.isSome (h : Grows d d') (hl : (d.lookup? l).isSome) : (d'.lookup? l).isSome := by
  obtain ⟨e, he⟩ := Option.isSome_iff_exists.mp hl
  cases e with
  | directory => rw [h.directory l he, Option.isSome_some]
  | file c =>
    obtain ⟨c', hc⟩ := h.file l c he
    rw [hc, Option.isSome_some]

namespace SameShape

lemma isDirectory (h : SameShape d d') : d'.isDirectory = d.isDirectory :=
  funext fun _ => Bool.eq_iff_iff.mpr ⟨h.shrinks.isDirectory, h.grows.isDirectory⟩

lemma isFile (h : SameShape d d') : d'.isFile = d.isFile :=
  funext fun _ => Bool.eq_iff_iff.mpr ⟨h.shrinks.isFile, h.grows.isFile⟩

lemma holds (h : SameShape d d') : d'.holds = d.holds :=
  funext fun _ => Bool.eq_iff_iff.mpr ⟨h.shrinks.holds, h.grows.holds⟩

lemma names (h : SameShape d d') (l : Location) : d'.names l = d.names l :=
  names_eq_of_isSome fun _ => Bool.eq_iff_iff.mpr ⟨h.shrinks.isSome, h.grows.isSome⟩

end SameShape
end Disk

namespace Glob

open Disk

variable {d d' : Disk}

lemma foldr_max_le_iff {xs : List Nat} {k : Nat} : xs.foldr max 0 ≤ k ↔ ∀ x ∈ xs, x ≤ k := by
  induction xs with
  | nil => simp
  | cons x xs ih => rw [List.foldr_cons, max_le_iff, ih, List.forall_mem_cons]

lemma depth_le_of_grows (h : Grows d d') : depth d ≤ depth d' := by
  refine Nat.succ_le_succ (foldr_max_le_iff.mpr fun x hx => ?_)
  obtain ⟨e, he, rfl⟩ := List.mem_map.mp hx
  by_cases hn : e.1.location = []
  · simp [hn]
  · obtain ⟨e', he', heq⟩ := (lookup?_isSome_iff hn).mp (h.isSome ((lookup?_isSome_iff hn).mpr ⟨e, he, rfl⟩))
    rw [← heq]
    exact foldr_max_le_iff.mp le_rfl _
      (List.mem_map_of_mem (f := fun e : Address × Entry => e.1.location.length) he')

lemma depth_eq_of_sameShape (h : SameShape d d') : depth d' = depth d :=
  le_antisymm (depth_le_of_grows h.shrinks) (depth_le_of_grows h.grows)

lemma names_eq_of_sameShape (h : SameShape d d') : names d' = names d := by
  funext dir
  rw [names, names, h.isDirectory]
  cases hl : d.locate dir with
  | ok l => simp only [h.grows.locate hl, h.names]
  | error e =>
    cases hl' : d'.locate dir with
    | ok l => cases hl.symm.trans (h.shrinks.locate hl')
    | error e' => rfl

lemma below_eq_of_sameShape (h : SameShape d d') (n : Nat) (dir : Path) : below d' n dir = below d n dir := by
  induction n generalizing dir with
  | zero => rfl
  | succ n ih => simp only [below, names_eq_of_sameShape h, ih]

lemma search_eq_of_sameShape (h : SameShape d d') (only : Bool) :
    (parts : List Part) → (dir : Path) → search d' only parts dir = search d only parts dir
  | [], dir => by simp only [search, h.isDirectory]
  | .literal name :: parts, dir => by
    simp only [search, h.isDirectory, h.holds, search_eq_of_sameShape h only parts]
  | [.directories], dir => by
    simp only [search, depth_eq_of_sameShape h, below_eq_of_sameShape h, h.isDirectory]
  | .directories :: part :: parts, dir => by
    simp only [search, depth_eq_of_sameShape h, below_eq_of_sameShape h, search_eq_of_sameShape h only parts]
  | .wild tokens :: parts, dir => by
    simp only [search, h.isDirectory, names_eq_of_sameShape h, search_eq_of_sameShape h only parts]

lemma paths_eq_of_sameShape (h : SameShape d d') (p : Pattern) : p.paths d' = p.paths d :=
  search_eq_of_sameShape h _ _ _

end Glob

namespace Target

open Disk

variable {d d' : Disk} {t : Target} {root : Path} {jobs : List Job} {job : Job} {found : List Path}

lemma expand_eq_of_sameShape (h : SameShape d d') (t : Target) (root : Path) :
    t.expand d' root = t.expand d root := by
  have hadd : addSources d' = addSources d := by
    funext sources paths
    simp only [addSources, h.isFile]
  simp only [expand, sources, hadd, Glob.paths_eq_of_sameShape h]

lemma isFile_addSources {sources : List Path} (hs : ∀ p ∈ sources, d.isFile p = true) (paths : List Path) :
    ∀ p ∈ addSources d sources paths, d.isFile p = true := by
  induction paths generalizing sources with
  | nil => exact hs
  | cons p paths ih =>
    rw [addSources, List.foldl_cons]
    split_ifs with hp
    · exact ih hs
    · simp only [Bool.or_eq_true, not_or, Bool.not_eq_true', Bool.not_eq_false] at hp
      exact ih (List.forall_mem_append.mpr ⟨hs, List.forall_mem_singleton.mpr hp.1⟩)

lemma isFile_of_mem_sources (h : t.sources d root = .ok found) : ∀ p ∈ found, d.isFile p = true := by
  refine foldlM_preserves (P := fun sources => ∀ p ∈ sources, d.isFile p = true)
    (fun sources pattern _ sources' hs h => ?_) (by simp) h
  obtain ⟨q, -, hq⟩ := exists_of_bind_eq_ok h
  obtain rfl := Except.ok.inj hq
  exact isFile_addSources hs _

lemma exists_sources (h : t.sources d root = .ok found) (d' : Disk) :
    ∃ found', t.sources d' root = .ok found' := by
  refine exists_foldlM_of_foldlM (fun sources pattern found sources' h => ?_) h []
  obtain ⟨q, hq, -⟩ := exists_of_bind_eq_ok h
  exact ⟨_, by rw [hq]; rfl⟩

lemma isFile_of_mem_expand (h : t.expand d root = .ok jobs) (hj : job ∈ jobs) : d.isFile job.source = true := by
  obtain ⟨found, hfound, hjobs⟩ := exists_of_bind_eq_ok h
  obtain rfl := Except.ok.inj hjobs
  obtain ⟨p, hp, rfl⟩ := List.mem_map.mp hj
  exact isFile_of_mem_sources hfound p hp

lemma exists_expand (h : t.expand d root = .ok jobs) (d' : Disk) : ∃ jobs', t.expand d' root = .ok jobs' := by
  obtain ⟨found, hfound, -⟩ := exists_of_bind_eq_ok h
  obtain ⟨found', hfound'⟩ := exists_sources hfound d'
  exact ⟨_, by rw [expand, hfound']; rfl⟩

end Target
end CommentBlocks
