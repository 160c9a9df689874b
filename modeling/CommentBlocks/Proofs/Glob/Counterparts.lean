import CommentBlocks.Proofs.Glob.Finding

/-! Two searches that start in directories which hold the same find the same, each seen from its own
directory, as long as they do not go up. What else the disks hold does not matter. -/

namespace CommentBlocks

namespace Path

variable {p q : Path}

/-- Names only, at least one, and perhaps the root before them. -/
def Ordinary (p : Path) : Prop := (∀ c ∈ p.components, c ≠ .here ∧ c ≠ .up) ∧ ∃ c ∈ p.components, c ≠ .root

instance (p : Path) : Decidable p.Ordinary := inferInstanceAs (Decidable (_ ∧ _))

namespace Ordinary

lemma components_eq_steps (h : p.Ordinary) : p.components = p.steps :=
  (List.filter_eq_self.mpr fun c hc => decide_eq_true (h.1 c hc).1).symm

lemma steps_ne_nil (h : p.Ordinary) : p.steps ≠ [] := by
  obtain ⟨c, hc, -⟩ := h.2
  rw [← h.components_eq_steps]
  exact List.ne_nil_of_mem hc

lemma up_not_mem (h : p.Ordinary) : .up ∉ p.components := fun hm => (h.1 _ hm).2 rfl

end Ordinary

lemma text_ne_nil_of_steps (h : p.steps ≠ []) : p.text ≠ [] := fun ht => h (steps_of_text_nil ht)

lemma steps_of_components {cs : List Component} (h : p.components = q.components ++ cs) (hcs : .here ∉ cs) :
    p.steps = q.steps ++ cs := by
  rw [steps, h, List.filter_append, ← steps]
  congr 1
  exact List.filter_eq_self.mpr fun c hc => decide_eq_true fun he => hcs (he ▸ hc)

def descends (p : Path) : Bool := !p.components.contains .up

def Rebased (base base' p p' : Path) : Prop :=
  ∃ r : Path, r.isAbsolute = false ∧ .up ∉ r.steps ∧ p.components = base.components ++ r.steps ∧
    p'.components = base'.components ++ r.steps

lemma descends_iff : p.descends = true ↔ .up ∉ p.components := by simp [descends]

lemma up_mem_steps_iff : .up ∈ p.steps ↔ .up ∈ p.components := by simp [steps]

end Path

namespace Disk

variable {d : Disk} {cs : List Path.Component}

lemma exists_foldl_step (h : ∀ c ∈ cs, ∃ n, c = .name n) :
    ∃ m : Location, m.length = cs.length ∧ ∀ l, cs.foldl step l = l ++ m := by
  induction cs with
  | nil => exact ⟨[], rfl, fun l => (List.append_nil l).symm⟩
  | cons c cs ih =>
    obtain ⟨⟨n, rfl⟩, hcs⟩ := List.forall_mem_cons.mp h
    obtain ⟨m, hlength, hm⟩ := ih hcs
    refine ⟨n :: m, by rw [List.length_cons, hlength, List.length_cons], fun l => ?_⟩
    rw [List.foldl_cons, hm, step, List.append_assoc, List.singleton_append]

end Disk

namespace Glob

open Disk

variable {d d' : Disk} {base base' dir dir' q q' : Path} {n : Text} {k : Nat} {parts : List Part} {only : Bool}

structure Alike (d d' : Disk) (base base' : Path) : Prop where
  ordinary : base.Ordinary
  ordinary' : base'.Ordinary
  isDirectory : d.isDirectory base = true
  isDirectory' : d'.isDirectory base' = true
  lookup? : ∀ l, d'.lookup? (d'.place base' ++ l) = d.lookup? (d.place base ++ l)

/-- Paths that lead to the same place, each from its own base, and to the same there. -/
structure Counterparts (d d' : Disk) (base base' q q' : Path) : Prop where
  rebased : Path.Rebased base base' q q'
  find : ∀ e, d.find q = .ok e ↔ d'.find q' = .ok e

lemma names_eq (d : Disk) (dir : Path) :
    names d dir = if d.isDirectory dir then d.names (d.place dir) else [] := by
  rw [names]
  cases h : d.isDirectory dir with
  | true =>
    have hl := (find_eq_ok_iff.mp (isDirectory_iff.mp h)).1
    simp only [hl, if_true]
  | false => cases d.locate dir <;> rfl

namespace Counterparts

lemma isDirectory (h : Counterparts d d' base base' q q') : d.isDirectory q = d'.isDirectory q' := by
  rw [Bool.eq_iff_iff, isDirectory_iff, isDirectory_iff]
  exact h.find _

lemma isFile (h : Counterparts d d' base base' q q') : d.isFile q = d'.isFile q' := by
  rw [Bool.eq_iff_iff, isFile_iff, isFile_iff]
  exact exists_congr fun c => h.find _

lemma holds (h : Counterparts d d' base base' q q') : d.holds q = d'.holds q' := by
  rw [Bool.eq_iff_iff, holds_iff, holds_iff]
  exact exists_congr h.find

variable (ha : Alike d d' base base')

include ha

lemma steps_ne_nil (h : Counterparts d d' base base' q q') : q.steps ≠ [] ∧ q'.steps ≠ [] := by
  obtain ⟨r, -, -, hq, hq'⟩ := h.rebased
  rw [Path.steps_of_components hq (Path.here_not_mem_steps r),
    Path.steps_of_components hq' (Path.here_not_mem_steps r)]
  exact ⟨List.append_ne_nil_of_left_ne_nil ha.ordinary.steps_ne_nil _,
    List.append_ne_nil_of_left_ne_nil ha.ordinary'.steps_ne_nil _⟩

lemma descends (h : Counterparts d d' base base' q q') : q.descends = true ∧ q'.descends = true := by
  obtain ⟨r, -, hup, hq, hq'⟩ := h.rebased
  rw [Path.descends_iff, Path.descends_iff, hq, hq']
  exact ⟨fun hm => (List.mem_append.mp hm).elim ha.ordinary.up_not_mem hup,
    fun hm => (List.mem_append.mp hm).elim ha.ordinary'.up_not_mem hup⟩

omit ha in
lemma exists_place (h : Counterparts d d' base base' q q') :
    ∃ m, d.place q = d.place base ++ m ∧ d'.place q' = d'.place base' ++ m := by
  obtain ⟨r, hr, hup, hq, hq'⟩ := h.rebased
  obtain ⟨m, -, hm⟩ := exists_foldl_step (Path.exists_name_of_mem_steps hr hup)
  have hplace : ∀ {d : Disk} {p base : Path},
      p.components = base.components ++ r.steps → d.place p = d.place base ++ m := by
    intro d p base hp
    rw [place_eq_foldl, Path.steps_of_components hp (Path.here_not_mem_steps r), List.foldl_append,
      ← place_eq_foldl, hm]
  exact ⟨m, hplace hq, hplace hq'⟩

lemma join_name (h : Counterparts d d' base base' q q') (hn : '/' ∉ n) (hup : n ≠ ['.', '.']) :
    Counterparts d d' base base' (q.join ⟨n⟩) (q'.join ⟨n⟩) where
  rebased := by
    obtain ⟨r, hr, hrup, hq, hq'⟩ := h.rebased
    obtain ⟨hne, hne'⟩ := h.steps_ne_nil ha
    have hrel := Path.isAbsolute_of_not_mem hn
    refine ⟨r.join ⟨n⟩, (Path.isAbsolute_join r hrel).trans hr, ?_, ?_, ?_⟩
    · rw [steps_join_name r hn, List.mem_append, Option.mem_toList, not_or]
      exact ⟨hrup, fun h => hup (Path.Component.ofPiece?_eq_up_iff.mp h)⟩
    · rw [Path.components_join (Path.text_ne_nil_of_steps hne) hrel, hq, Path.steps_join r hrel, List.append_assoc]
    · rw [Path.components_join (Path.text_ne_nil_of_steps hne') hrel, hq', Path.steps_join r hrel,
        List.append_assoc]
  find e := by
    obtain ⟨hne, hne'⟩ := h.steps_ne_nil ha
    obtain ⟨m, hm, hm'⟩ := h.exists_place
    rw [find_join_name hn (Path.text_ne_nil_of_steps hne), find_join_name hn (Path.text_ne_nil_of_steps hne'),
      h.isDirectory, hm, hm', enter, enter]
    cases hc : Path.Component.ofPiece? n with
    | none => simp only [ha.lookup?]
    | some c =>
      rcases Path.Component.up_or_name_of_ofPiece? hc with rfl | rfl
      · exact absurd (Path.Component.ofPiece?_eq_up_iff.mp hc) hup
      · simp only [List.append_assoc, ha.lookup?]

lemma child (h : Counterparts d d' base base' q q') (hn : '/' ∉ n) (hup : n ≠ ['.', '.']) :
    Counterparts d d' base base' (Glob.child q n) (Glob.child q' n) := by
  obtain ⟨hq, hq'⟩ := h.steps_ne_nil ha
  rw [child_of_steps hq, child_of_steps hq']
  exact h.join_name ha hn hup

lemma names (h : Counterparts d d' base base' q q') : Glob.names d q = Glob.names d' q' := by
  obtain ⟨m, hm, hm'⟩ := h.exists_place
  rw [names_eq, names_eq, h.isDirectory]
  split_ifs
  · refine names_eq_of_isSome fun n => ?_
    rw [hm, hm', List.append_assoc, List.append_assoc, ha.lookup?]
  · rfl

end Counterparts

lemma lt_depth_of_mem_names (h : n ∈ names d dir) : (d.place dir).length + 1 < depth d := by
  rw [names_eq] at h
  split_ifs at h
  · obtain ⟨e, he, hl⟩ := (lookup?_isSome_iff (List.concat_ne_nil n _)).mp (mem_names_iff.mp h)
    have hle := foldr_max_le_iff.mp le_rfl _
      (List.mem_map_of_mem (f := fun e : Address × Entry => e.1.location.length) he)
    rw [hl, List.length_append, List.length_singleton] at hle
    exact Nat.lt_succ_of_le hle
  · cases h

lemma place_child (dir : Path) (hn : Path.IsName n) : d.place (child dir n) = d.place dir ++ [n] := by
  rw [place_eq_foldl, steps_child dir hn.1, hn.2, List.foldl_append, ← place_eq_foldl]
  rfl

lemma below_add (hk : depth d ≤ k + (d.place dir).length) (j : Nat) :
    below d (k + j) dir = below d k dir := by
  induction k generalizing dir with
  | zero =>
    have hnone : names d dir = [] := by
      refine List.eq_nil_iff_forall_not_mem.mpr fun n hn => ?_
      have hlt := lt_depth_of_mem_names hn
      omega
    cases j with
    | zero => rfl
    | succ j => simp [below, hnone]
  | succ k ih =>
    rw [Nat.succ_add, below, below]
    refine List.flatMap_congr fun n hn => ?_
    have hname := (isDirectory_and_isName hn).2
    have hplace : (d.place (child dir n)).length = (d.place dir).length + 1 := by
      rw [place_child dir hname, List.length_append, List.length_singleton]
    rw [ih (by omega)]

lemma below_depth (hk : depth d ≤ k) (dir : Path) : below d (depth d) dir = below d k dir := by
  obtain ⟨j, rfl⟩ := Nat.exists_eq_add_of_le hk
  exact (below_add (Nat.le_add_right _ _) j).symm

lemma forall₂_flatMap {α β γ : Type} {R : α → β → Prop} {f : γ → List α} {g : γ → List β} {xs : List γ}
    (h : ∀ x ∈ xs, List.Forall₂ R (f x) (g x)) : List.Forall₂ R (xs.flatMap f) (xs.flatMap g) := by
  induction xs with
  | nil => exact .nil
  | cons x xs ih =>
    obtain ⟨hx, hxs⟩ := List.forall_mem_cons.mp h
    exact List.rel_append hx (ih hxs)

lemma forall₂_filter {R : Path → Path → Prop} {f g : Path → Bool} {ps qs : List Path} (h : List.Forall₂ R ps qs)
    (hfg : ∀ p q, R p q → f p = g q) : List.Forall₂ R (ps.filter f) (qs.filter g) :=
  List.rel_filter (fun p q hpq => Bool.eq_iff_iff.mp (hfg p q hpq)) h

lemma search_wild (d : Disk) (only : Bool) (ts : List Token) (parts : List Part) (dir : Path) :
    search d only (.wild ts :: parts) dir =
      ((if (Part.wild ts).startsWithDot && d.isDirectory dir then [['.', '.'], ['.']] else []).flatMap fun name =>
        if (Part.wild ts).accepts name then search d only parts (dir.join ⟨name⟩) else []) ++
      (names d dir).flatMap fun name =>
        if (Part.wild ts).accepts name then search d only parts (child dir name) else [] := by
  simp only [search]

lemma filter_descends_of_up (hparts : ∀ name, .literal name ∈ parts → '/' ∉ name) (hup : .up ∈ dir.steps) :
    (search d only parts dir).filter Path.descends = [] := by
  refine List.filter_eq_nil_iff.mpr fun q hq => ?_
  obtain ⟨r, -, hsteps, -⟩ := exists_steps_of_transGen hparts (transGen_of_mem_search parts hq).1
  rw [Path.descends_iff, not_not, ← Path.up_mem_steps_iff, hsteps]
  exact List.mem_append_left _ hup

def FindsAlike (d d' : Disk) (base base' : Path) (only : Bool) (parts : List Part) : Prop :=
  ∀ dir dir', Counterparts d d' base base' dir dir' →
    List.Forall₂ (Counterparts d d' base base') ((search d only parts dir).filter Path.descends)
      ((search d' only parts dir').filter Path.descends)

section Alike

variable (ha : Alike d d' base base')

include ha

lemma Counterparts.below (h : Counterparts d d' base base' dir dir') (k : Nat) :
    List.Forall₂ (fun x x' => Counterparts d d' base base' x.1 x'.1 ∧ x.2 = x'.2) (Glob.below d k dir)
      (Glob.below d' k dir') := by
  induction k generalizing dir dir' with
  | zero => exact .nil
  | succ k ih =>
    rw [Glob.below, Glob.below, ← h.names ha]
    refine forall₂_flatMap fun n hn => ?_
    obtain ⟨-, hslash, hc⟩ := isDirectory_and_isName hn
    have hchild := h.child ha hslash fun hup => by rw [Path.Component.ofPiece?_eq_up_iff.mpr hup] at hc; cases hc
    exact .cons ⟨hchild, rfl⟩ (ih hchild)

lemma FindsAlike.join (hparts : ∀ name, .literal name ∈ parts → '/' ∉ name)
    (hfinds : FindsAlike d d' base base' only parts) (h : Counterparts d d' base base' dir dir') (hn : '/' ∉ n) :
    List.Forall₂ (Counterparts d d' base base') ((search d only parts (dir.join ⟨n⟩)).filter Path.descends)
      ((search d' only parts (dir'.join ⟨n⟩)).filter Path.descends) := by
  by_cases hup : n = ['.', '.']
  · have hsteps : ∀ p : Path, .up ∈ (p.join ⟨n⟩).steps := by
      intro p
      rw [steps_join_name p hn, List.mem_append, hup]
      exact Or.inr (by decide)
    rw [filter_descends_of_up hparts (hsteps dir), filter_descends_of_up hparts (hsteps dir')]
    exact .nil
  · exact hfinds _ _ (h.join_name ha hn hup)

lemma FindsAlike.child (hparts : ∀ name, .literal name ∈ parts → '/' ∉ name)
    (hfinds : FindsAlike d d' base base' only parts) (h : Counterparts d d' base base' dir dir') (hn : '/' ∉ n) :
    List.Forall₂ (Counterparts d d' base base') ((search d only parts (Glob.child dir n)).filter Path.descends)
      ((search d' only parts (Glob.child dir' n)).filter Path.descends) := by
  obtain ⟨hq, hq'⟩ := h.steps_ne_nil ha
  rw [child_of_steps hq, child_of_steps hq']
  exact hfinds.join ha hparts h hn

lemma findsAlike (only : Bool) :
    (parts : List Part) → (∀ name, .literal name ∈ parts → '/' ∉ name) → FindsAlike d d' base base' only parts
  | [], _, dir, dir', h => by
    rw [search, search, h.isDirectory]
    split_ifs
    · exact .nil
    · simpa [h.descends ha] using h
  | .literal name :: parts, hparts, dir, dir', h => by
    have hrest : ∀ name, .literal name ∈ parts → '/' ∉ name :=
      fun name hm => hparts name (List.mem_cons_of_mem _ hm)
    have hslash := hparts name List.mem_cons_self
    have hfound : (if name = ['.'] ∨ name = ['.', '.'] then d.isDirectory dir else d.holds (Glob.child dir name)) =
        if name = ['.'] ∨ name = ['.', '.'] then d'.isDirectory dir' else d'.holds (Glob.child dir' name) := by
      split_ifs with hspecial
      · exact h.isDirectory
      · exact (h.child ha hslash (not_or.mp hspecial).2).holds
    simp only [search, hfound]
    split_ifs
    any_goals exact (findsAlike only parts hrest).child ha hrest h hslash
    all_goals exact .nil
  | [.directories], _, dir, dir', h => by
    rw [search, search, below_depth (le_max_left (depth d) (depth d')),
      below_depth (le_max_right (depth d) (depth d'))]
    have hfound : List.Forall₂ (Counterparts d d' base base')
        ((below d (max (depth d) (depth d')) dir).map Prod.fst)
        ((below d' (max (depth d) (depth d')) dir').map Prod.fst) :=
      List.rel_map (fun _ _ hx => hx.1) (h.below ha _)
    refine forall₂_filter (forall₂_filter hfound fun q q' hq => hq.isDirectory) fun q q' hq => ?_
    rw [(hq.descends ha).1, (hq.descends ha).2]
  | .directories :: part :: parts, hparts, dir, dir', h => by
    rw [search, search, below_depth (le_max_left (depth d) (depth d')),
      below_depth (le_max_right (depth d) (depth d')), List.filter_flatMap, List.filter_flatMap]
    refine List.rel_flatMap (h.below ha _) fun x x' hx => ?_
    simp only [hx.2]
    split_ifs
    · exact findsAlike only parts
        (fun name hm => hparts name (List.mem_cons_of_mem _ (List.mem_cons_of_mem _ hm))) _ _ hx.1
    · exact .nil
  | .wild ts :: parts, hparts, dir, dir', h => by
    have hrest : ∀ name, .literal name ∈ parts → '/' ∉ name :=
      fun name hm => hparts name (List.mem_cons_of_mem _ hm)
    have hfinds := findsAlike only parts hrest
    rw [search_wild, search_wild, List.filter_append, List.filter_append, List.filter_flatMap, List.filter_flatMap,
      List.filter_flatMap, List.filter_flatMap, h.isDirectory, ← h.names ha]
    refine List.rel_append (forall₂_flatMap fun name hname => ?_) (forall₂_flatMap fun name hname => ?_)
    · have hslash : '/' ∉ name := by
        split_ifs at hname
        · simp only [List.mem_cons, List.not_mem_nil, or_false] at hname
          rcases hname with rfl | rfl <;> decide
        · cases hname
      cases (Part.wild ts).accepts name with
      | false => exact .nil
      | true => exact hfinds.join ha hrest h hslash
    · obtain ⟨-, hslash, -⟩ := isDirectory_and_isName hname
      cases (Part.wild ts).accepts name with
      | false => exact .nil
      | true => exact hfinds.child ha hrest h hslash

end Alike

end Glob
end CommentBlocks
