import CommentBlocks.Proofs.LineBreaks
import CommentBlocks.Proofs.Overwriting
import Mathlib.Order.MinMax

/-! The steps of a path are its components but for `.`. Joining puts steps after steps, taking a prefix off
takes steps off, and paths with the same steps lead to the same place. Steps that do not start at the root
come down to a route: some directories up, then down along names. -/

namespace CommentBlocks

namespace Path

variable {p q r base : Path} {piece n : Text} {ps : List Text} {c : Component} {k : Nat}

lemma up_or_name_of_mem (h : c ∈ ps.filterMap Component.ofPiece?) : c = .up ∨ ∃ n ∈ ps, c = .name n := by
  obtain ⟨piece, hp, hc⟩ := List.mem_filterMap.mp h
  exact (Component.up_or_name_of_ofPiece? hc).imp_right fun hn => ⟨piece, hp, hn⟩

lemma exists_pieces_eq (p : Path) : ∃ first rest, p.pieces = first :: rest :=
  List.exists_cons_of_ne_nil (Text.cut_ne_nil '/' p.text)

def steps (p : Path) : List Component := p.components.filter (· ≠ .here)

lemma head?_pieces_of_isAbsolute (h : p.isAbsolute = true) : p.pieces.head? = some [] := by
  obtain ⟨x, rest, hx⟩ := isAbsolute_iff.mp h
  rw [hx, List.head?_cons]

lemma components_eq_filterMap (p : Path) :
    p.components =
      (if p.isAbsolute then [.root] else if p.pieces.head? = some ['.'] then [.here] else []) ++
        p.pieces.filterMap Component.ofPiece? := by
  obtain ⟨first, rest, hp⟩ := exists_pieces_eq p
  rw [components, hp]
  split_ifs with ha hd
  · have hfirst := head?_pieces_of_isAbsolute ha
    rw [hp, List.head?_cons, Option.some.injEq] at hfirst
    simp [hfirst, Component.ofPiece?]
  · rw [List.head?_cons, Option.some.injEq] at hd
    simp [hd, Component.ofPiece?]
  · rw [List.head?_cons, Option.some.injEq] at hd
    cases hc : Component.ofPiece? first <;> simp [hd, hc]

lemma steps_eq (p : Path) :
    p.steps = (if p.isAbsolute then [.root] else []) ++ p.pieces.filterMap Component.ofPiece? := by
  have hpieces : (p.pieces.filterMap Component.ofPiece?).filter (· ≠ .here) =
      p.pieces.filterMap Component.ofPiece? := by
    refine List.filter_eq_self.mpr fun c hc => ?_
    rcases up_or_name_of_mem hc with rfl | ⟨n, -, rfl⟩ <;> simp
  rw [steps, components_eq_filterMap, List.filter_append, hpieces]
  split_ifs <;> rfl

lemma components_eq (p : Path) :
    p.components = (if p.pieces.head? = some ['.'] then [.here] else []) ++ p.steps := by
  rw [components_eq_filterMap, steps_eq]
  by_cases ha : p.isAbsolute = true
  · simp [ha, head?_pieces_of_isAbsolute ha]
  · simp [ha]

lemma isAbsolute_iff_root_mem : p.isAbsolute = true ↔ .root ∈ p.steps := by
  rw [steps_eq, List.mem_append]
  constructor
  · intro h
    simp [h]
  · rintro (h | h)
    · by_contra ha
      simp [ha] at h
    · rcases up_or_name_of_mem h with h | ⟨n, -, h⟩ <;> cases h

lemma root_not_mem_steps (h : p.isAbsolute = false) : .root ∉ p.steps := fun hr => by
  rw [isAbsolute_iff_root_mem.mpr hr] at h
  cases h

lemma here_not_mem_steps (p : Path) : .here ∉ p.steps := by simp [steps]

lemma isAbsolute_eq_of_steps (h : p.steps = q.steps) : p.isAbsolute = q.isAbsolute := by
  rw [Bool.eq_iff_iff, isAbsolute_iff_root_mem, isAbsolute_iff_root_mem, h]

lemma exists_name_of_mem_steps (ha : p.isAbsolute = false) (hup : .up ∉ p.steps) :
    ∀ c ∈ p.steps, ∃ n, c = .name n := by
  intro c hc
  cases c with
  | name n => exact ⟨n, rfl⟩
  | up => exact absurd hc hup
  | here => exact absurd hc (here_not_mem_steps p)
  | root => exact absurd hc (root_not_mem_steps ha)

lemma pieces_of_not_mem (h : '/' ∉ n) : (⟨n⟩ : Path).pieces = [n] := Text.cut_of_not_mem h

lemma isAbsolute_of_not_mem (h : '/' ∉ n) : (⟨n⟩ : Path).isAbsolute = false := by
  by_contra ha
  obtain ⟨x, rest, hx⟩ := isAbsolute_iff.mp (Bool.eq_true_of_not_eq_false ha)
  rw [pieces_of_not_mem h] at hx
  cases hx

lemma steps_of_not_mem (h : '/' ∉ n) : (⟨n⟩ : Path).steps = (Component.ofPiece? n).toList := by
  rw [steps_eq, isAbsolute_of_not_mem h, pieces_of_not_mem h]
  cases hc : Component.ofPiece? n <;> simp [hc]

lemma exists_pieces_join (hp : p.text ≠ []) (hq : q.isAbsolute = false) :
    ∃ front, front ≠ [] ∧ (p.join q).pieces = front ++ q.pieces ∧
      (p.pieces = front ∨ p.pieces = front ++ [[]]) := by
  rw [join, if_neg (by simp [hp, hq])]
  split_ifs with hlast
  · obtain ⟨b, hb⟩ := List.getLast?_eq_some_iff.mp hlast
    refine ⟨Text.cut '/' b, Text.cut_ne_nil '/' b, ?_, Or.inr ?_⟩
    · rw [pieces, hb, List.append_assoc, List.singleton_append, Text.cut_append_cons]
      rfl
    · rw [pieces, hb, Text.cut_append_cons]
      rfl
  · exact ⟨p.pieces, Text.cut_ne_nil '/' p.text, Text.cut_append_cons '/' p.text q.text, Or.inl rfl⟩

lemma isAbsolute_join (p : Path) (hq : q.isAbsolute = false) : (p.join q).isAbsolute = p.isAbsolute := by
  by_cases hp : p.text = []
  · rw [join, if_pos (Or.inr hp), hq, isAbsolute, hp]
    rfl
  · obtain ⟨c, rest, hc⟩ := List.exists_cons_of_ne_nil hp
    rw [join, if_neg (by simp [hp, hq])]
    split_ifs <;> simp [isAbsolute, hc]

lemma steps_of_text_nil (hp : p.text = []) : p.steps = [] := by
  rw [steps_eq, isAbsolute, pieces, hp]
  rfl

lemma steps_join (p : Path) (hq : q.isAbsolute = false) : (p.join q).steps = p.steps ++ q.steps := by
  by_cases hp : p.text = []
  · rw [join, if_pos (Or.inr hp), steps_of_text_nil hp, List.nil_append]
  · obtain ⟨front, -, hj, hf⟩ := exists_pieces_join hp hq
    have hfront : p.pieces.filterMap Component.ofPiece? = front.filterMap Component.ofPiece? := by
      rcases hf with h | h <;> simp [h, Component.ofPiece?]
    rw [steps_eq, steps_eq p, steps_eq q, isAbsolute_join p hq, hq, hj, List.filterMap_append, hfront]
    simp

lemma components_join (hp : p.text ≠ []) (hq : q.isAbsolute = false) :
    (p.join q).components = p.components ++ q.steps := by
  obtain ⟨front, hne, hj, hf⟩ := exists_pieces_join hp hq
  have hhead : (p.join q).pieces.head? = p.pieces.head? := by
    obtain ⟨x, xs, rfl⟩ := List.exists_cons_of_ne_nil hne
    rcases hf with h | h <;> simp [hj, h]
  rw [components_eq, components_eq p, hhead, steps_join p hq, List.append_assoc]

lemma filterMap_dropWhile_isIdle (ps : List Text) :
    (ps.dropWhile isIdle).filterMap Component.ofPiece? = ps.filterMap Component.ofPiece? := by
  induction ps with
  | nil => rfl
  | cons piece ps ih =>
    rw [List.dropWhile_cons]
    split_ifs with hidle
    · rw [ih, List.filterMap_cons_none (Option.isNone_iff_eq_none.mp hidle)]
    · rfl

lemma filterMap_dropIdleEnd (ps : List Text) :
    (dropIdleEnd ps).filterMap Component.ofPiece? = ps.filterMap Component.ofPiece? := by
  rw [dropIdleEnd, List.filterMap_reverse, filterMap_dropWhile_isIdle, List.filterMap_reverse,
    List.reverse_reverse]

lemma filterMap_afterComponents (k : Nat) (ps : List Text) :
    (afterComponents k ps).filterMap Component.ofPiece? = (ps.filterMap Component.ofPiece?).drop k := by
  fun_induction afterComponents k ps with
  | case1 => rfl
  | case2 => rfl
  | case3 k piece ps hidle ih => rw [ih, List.filterMap_cons_none (Option.isNone_iff_eq_none.mp hidle)]
  | case4 k piece ps hidle ih =>
    obtain ⟨c, hc⟩ := Option.ne_none_iff_exists'.mp fun h => hidle (Option.isNone_iff_eq_none.mpr h)
    rw [ih, List.filterMap_cons_some hc, List.drop_succ_cons]

lemma afterComponents_suffix (k : Nat) (ps : List Text) : afterComponents k ps <:+ ps := by
  fun_induction afterComponents k ps with
  | case1 | case2 => exact List.suffix_rfl
  | case3 k piece ps _ ih | case4 k piece ps _ ih => exact ih.trans (List.suffix_cons piece ps)

lemma steps_ofPieces (h : ps ⊆ p.pieces) (hhead : ps.head? ≠ some []) :
    (ofPieces ps).isAbsolute = false ∧ (ofPieces ps).steps = ps.filterMap Component.ofPiece? := by
  by_cases hne : ps = []
  · subst hne
    exact ⟨rfl, rfl⟩
  · have hpieces := pieces_ofPieces hne h
    have ha : (ofPieces ps).isAbsolute = false :=
      Bool.eq_false_iff.mpr fun ha => hhead (hpieces ▸ head?_pieces_of_isAbsolute ha)
    rw [steps_eq, ha, hpieces]
    exact ⟨rfl, rfl⟩

lemma tail_components (h : p.components ≠ []) :
    p.components.tail = p.pieces.tail.filterMap Component.ofPiece? := by
  obtain ⟨first, rest, hp⟩ := exists_pieces_eq p
  rw [components, hp] at h ⊢
  simp only at h ⊢
  split_ifs at h ⊢ with ha hd
  · rfl
  · rfl
  · cases hc : Component.ofPiece? first with
    | some c => rfl
    | none =>
      have hfirst : first = [] := by
        rw [Component.ofPiece?] at hc
        split_ifs at hc with hidle
        exact hidle.resolve_right hd
      cases rest with
      | nil => simp [hc] at h
      | cons x rest => exact absurd (isAbsolute_iff.mpr ⟨x, rest, by rw [hp, hfirst]⟩) ha

lemma steps_trimEnd (p : Path) : p.trimEnd.steps = p.steps := by
  obtain ⟨first, rest, hp⟩ := exists_pieces_eq p
  rw [trimEnd, hp]
  simp only
  by_cases hroot : first = [] ∧ dropIdleEnd rest = []
  · simp only [hroot.1, hroot.2]
    split_ifs with ha
    · rw [steps_eq p, if_pos ha, hp, hroot.1, List.filterMap_cons, ← filterMap_dropIdleEnd rest, hroot.2]
      rfl
    · rfl
  · have hsub : first :: dropIdleEnd rest ⊆ p.pieces :=
      hp ▸ List.cons_subset_cons first (dropIdleEnd_prefix_self rest).subset
    have hq := pieces_ofPieces (List.cons_ne_nil _ _) hsub
    have ha : (ofPieces (first :: dropIdleEnd rest)).isAbsolute = p.isAbsolute := by
      rw [Bool.eq_iff_iff, isAbsolute_iff, isAbsolute_iff, hq, hp]
      cases hkept : dropIdleEnd rest with
      | cons => cases rest <;> simp_all [dropIdleEnd]
      | nil => simp_all
    have htrim : steps (ofPieces (first :: dropIdleEnd rest)) = p.steps := by
      rw [steps_eq, steps_eq p, ha, hq, hp, List.filterMap_cons, List.filterMap_cons, filterMap_dropIdleEnd]
    split
    · next hidle => exact absurd ⟨rfl, hidle⟩ hroot
    · exact htrim

lemma components_of_stripPrefix? (h : p.stripPrefix? base = some r) (hb : base.components ≠ []) :
    r.isAbsolute = false ∧ p.components = base.components ++ r.steps := by
  rw [stripPrefix?] at h
  split_ifs at h with hpre
  obtain ⟨rest, hrest⟩ := List.isPrefixOf_iff_prefix.mp hpre
  obtain ⟨k, hk⟩ := Nat.exists_eq_succ_of_ne_zero (List.length_pos_of_ne_nil hb).ne'
  simp only [hk, Option.some.injEq] at h
  have hkept := dropIdleEnd_prefix_self ((afterComponents k p.pieces.tail).dropWhile isIdle)
  have hsub := List.Subset.trans hkept.subset
    (((List.dropWhile_suffix isIdle).trans (afterComponents_suffix k _)).trans
      (List.tail_suffix p.pieces)).subset
  have hhead : (dropIdleEnd ((afterComponents k p.pieces.tail).dropWhile isIdle)).head? ≠ some [] := by
    intro hd
    obtain ⟨later, hlater⟩ := List.head?_eq_some_iff.mp hd
    obtain ⟨after, hafter⟩ := hkept
    have hfirst := List.head?_dropWhile_not isIdle (afterComponents k p.pieces.tail)
    rw [← hafter, hlater] at hfirst
    exact absurd (show isIdle [] = false from hfirst) (by decide)
  obtain ⟨hr, hsteps⟩ := steps_ofPieces hsub hhead
  subst h
  refine ⟨hr, ?_⟩
  have hne : p.components ≠ [] := hrest ▸ List.append_ne_nil_of_left_ne_nil hb rest
  rw [hsteps, filterMap_dropIdleEnd, filterMap_dropWhile_isIdle, filterMap_afterComponents, ← tail_components hne,
    List.drop_tail, ← Nat.succ_eq_add_one, ← hk, ← hrest, List.drop_left]

lemma steps_of_stripPrefix? (h : p.stripPrefix? base = some r) : p.steps = base.steps ++ r.steps := by
  by_cases hb : base.components = []
  · rw [stripPrefix?, hb] at h
    obtain rfl := Option.some.inj h
    rw [steps_trimEnd, steps, steps, hb]
    rfl
  · have hr : r.steps.filter (· ≠ .here) = r.steps := by simp [steps]
    rw [steps, (components_of_stripPrefix? h hb).2, List.filter_append, hr, ← steps]

lemma stripPrefix?_eq_none_iff : p.stripPrefix? base = none ↔ ¬ base.components <+: p.components := by
  rw [stripPrefix?, ← List.isPrefixOf_iff_prefix]
  split_ifs with h
  · simp only [h, not_true, iff_false]
    split <;> simp
  · simp [h]

end Path

namespace Disk

variable {d : Disk} {p q dir : Path} {l : Location}

def step (l : Location) : Path.Component → Location
  | .root => []
  | .here => l
  | .up => l.dropLast
  | .name n => l ++ [n]

lemma enter_eq_foldl (l : Location) (piece : Text) :
    enter l piece = (Path.Component.ofPiece? piece).toList.foldl step l := by
  rw [enter]
  cases hc : Path.Component.ofPiece? piece with
  | none => rfl
  | some c => rcases Path.Component.up_or_name_of_ofPiece? hc with rfl | rfl <;> rfl

lemma foldl_enter (ps : List Text) (l : Location) :
    ps.foldl enter l = (ps.filterMap Path.Component.ofPiece?).foldl step l := by
  induction ps generalizing l with
  | nil => rfl
  | cons piece ps ih =>
    rw [List.foldl_cons, ih, enter_eq_foldl]
    cases hc : Path.Component.ofPiece? piece with
    | none => rw [List.filterMap_cons_none hc, Option.toList_none, List.foldl_nil]
    | some c =>
      rw [List.filterMap_cons_some hc, Option.toList_some, List.foldl_cons, List.foldl_nil, List.foldl_cons]

lemma place_eq_foldl (d : Disk) (p : Path) : d.place p = p.steps.foldl step d.working := by
  rw [place, foldl_enter, start, Path.steps_eq, List.foldl_append]
  split_ifs <;> rfl

lemma place_eq_of_steps (h : p.steps = q.steps) (d : Disk) : d.place p = d.place q := by
  rw [place_eq_foldl, place_eq_foldl, h]

lemma place_eq_of_same (h : p.same q = true) (d : Disk) : d.place p = d.place q :=
  place_eq_of_steps (by rw [Path.steps, Path.steps, Path.same_iff.mp h]) d

lemma place_join (d : Disk) (p : Path) (hq : q.isAbsolute = false) :
    d.place (p.join q) = q.steps.foldl step (d.place p) := by
  rw [place_eq_foldl, place_eq_foldl, Path.steps_join p hq, List.foldl_append]

def Below (d : Disk) (dir p : Path) : Prop := d.place dir <+: d.place p ∧ d.place p ≠ d.place dir

instance (d : Disk) (dir p : Path) : Decidable (d.Below dir p) := inferInstanceAs (Decidable (_ ∧ _))

end Disk

/-- A way from a directory: some directories up, then down along names. -/
structure Route where
  ups : Nat := 0
  names : List Text := []
  deriving DecidableEq, Repr

namespace Route

open Disk

variable {r : Route} {c : Path.Component} {cs : List Path.Component} {l : Location}

def extend (r : Route) : Path.Component → Route
  | .up => if r.names = [] then ⟨r.ups + 1, []⟩ else ⟨r.ups, r.names.dropLast⟩
  | .name n => ⟨r.ups, r.names ++ [n]⟩
  | _ => r

def goal (r : Route) (l : Location) : Location := l.take (l.length - r.ups) ++ r.names

def left (r : Route) (l : Location) : List Text := l.drop (l.length - r.ups)

lemma goal_nil (l : Location) : goal {} l = l := by simp [goal]

lemma goal_of_ups_eq_zero (h : r.ups = 0) (l : Location) : r.goal l = l ++ r.names := by simp [goal, h]

lemma goal_extend (r : Route) (l : Location) (h : c ≠ .root) : (r.extend c).goal l = step (r.goal l) c := by
  cases c with
  | root => exact absurd rfl h
  | here => rfl
  | name n => simp [extend, goal, step]
  | up =>
    rw [extend, step]
    split_ifs with hn
    · have htake : min (l.length - r.ups - 1) l.length = l.length - (r.ups + 1) := by omega
      simp [goal, hn, List.dropLast_eq_take, List.take_take, htake]
    · rw [goal, goal, List.dropLast_append_of_ne_nil hn]

lemma goal_foldl_extend (h : .root ∉ cs) (r : Route) (l : Location) :
    (cs.foldl extend r).goal l = cs.foldl step (r.goal l) := by
  induction cs generalizing r with
  | nil => rfl
  | cons c cs ih =>
    obtain ⟨hc, hcs⟩ := not_or.mp (List.mem_cons.not.mp h)
    rw [List.foldl_cons, List.foldl_cons, ih hcs, goal_extend r l (Ne.symm hc)]

lemma take_append_left (r : Route) (l : Location) : l.take (l.length - r.ups) ++ r.left l = l :=
  List.take_append_drop _ l

lemma prefix_goal_iff (r : Route) (l : Location) : l <+: r.goal l ↔ r.left l <+: r.names := by
  have h : l.take (l.length - r.ups) ++ r.left l <+: r.goal l ↔ r.left l <+: r.names :=
    List.prefix_append_right_inj _
  rwa [take_append_left] at h

lemma goal_eq_self_iff (r : Route) (l : Location) : r.goal l = l ↔ r.names = r.left l := by
  have h : r.goal l = l.take (l.length - r.ups) ++ r.left l ↔ r.names = r.left l := List.append_right_inj _
  rwa [take_append_left] at h

lemma foldl_extend_of_names (h : ∀ c ∈ cs, ∃ n, c = .name n) (r : Route) :
    (cs.foldl extend r).ups = r.ups ∧ (cs.foldl extend r).names.length = r.names.length + cs.length := by
  induction cs generalizing r with
  | nil => exact ⟨rfl, rfl⟩
  | cons c cs ih =>
    obtain ⟨⟨n, rfl⟩, hcs⟩ := List.forall_mem_cons.mp h
    obtain ⟨hups, hlen⟩ := ih hcs (r.extend (.name n))
    rw [List.foldl_cons, hups, hlen, extend, List.length_append, List.length_singleton, List.length_cons]
    exact ⟨rfl, by omega⟩

end Route

def Path.route (p : Path) : Route := p.steps.foldl Route.extend {}

namespace Disk

variable {d : Disk} {p q : Path}

lemma place_eq_goal (d : Disk) (hp : p.isAbsolute = false) : d.place p = p.route.goal d.working := by
  rw [place_eq_foldl, Path.route, Route.goal_foldl_extend (Path.root_not_mem_steps hp), Route.goal_nil]

lemma place_join_eq_goal (d : Disk) (p : Path) (hq : q.isAbsolute = false) :
    d.place (p.join q) = q.route.goal (d.place p) := by
  rw [place_join d p hq, Path.route, Route.goal_foldl_extend (Path.root_not_mem_steps hq), Route.goal_nil]

lemma below_join_iff (d : Disk) (p : Path) (hq : q.isAbsolute = false) :
    d.Below p (p.join q) ↔
      q.route.left (d.place p) <+: q.route.names ∧ q.route.names ≠ q.route.left (d.place p) := by
  rw [Below, place_join_eq_goal d p hq, Route.prefix_goal_iff, ne_eq, Route.goal_eq_self_iff]

end Disk
end CommentBlocks
