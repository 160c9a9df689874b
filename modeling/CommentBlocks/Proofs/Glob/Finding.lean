import CommentBlocks.Proofs.Glob.Escaping
import CommentBlocks.Proofs.Routes
import CommentBlocks.Proofs.Shapes

/-! What a search finds lies on a way of single steps, each to a name that the pattern spells out or to a name in a
directory. Parts that stand for one name only take the search straight down that name. -/

namespace CommentBlocks

namespace Disk

variable {d : Disk} {p : Path} {l : Location} {n : Text} {e : Entry}

lemma isName_of_mem_names (h : n ∈ d.names l) : Path.IsName n := by
  obtain ⟨e, -, hl⟩ := (lookup?_isSome_iff (List.concat_ne_nil n l)).mp (mem_names_iff.mp h)
  exact e.1.named n (hl ▸ List.mem_concat_self)

lemma isDirectory_iff_exists_walk :
    d.isDirectory p = true ↔
      p.text ≠ [] ∧ ∃ m, d.walk (d.start p) p.pieces = .ok m ∧ d.lookup? m = some .directory := by
  rw [isDirectory_iff, find_eq_ok_iff, locate_eq_ok_iff, and_assoc]
  refine and_congr_right fun _ => ⟨fun h => ⟨_, h⟩, ?_⟩
  rintro ⟨m, hm, hl⟩
  obtain rfl : m = d.place p := walk_eq_foldl hm
  exact ⟨hm, hl⟩

lemma place_join_name (hn : '/' ∉ n) (d : Disk) (p : Path) : d.place (p.join ⟨n⟩) = enter (d.place p) n := by
  rw [place_join d p (Path.isAbsolute_of_not_mem hn), Path.steps_of_not_mem hn, enter_eq_foldl]

lemma find_join_name (hn : '/' ∉ n) (hp : p.text ≠ []) :
    d.find (p.join ⟨n⟩) = .ok e ↔ d.isDirectory p = true ∧ d.lookup? (enter (d.place p) n) = some e := by
  have hrel := Path.isAbsolute_of_not_mem hn
  obtain ⟨front, hne, hj, hf⟩ := Path.exists_pieces_join hp hrel
  have htext : (p.join ⟨n⟩).text ≠ [] := by
    intro ht
    have hpieces : (p.join ⟨n⟩).pieces = [[]] := by rw [Path.pieces, ht]; rfl
    rw [hj] at hpieces
    obtain ⟨rfl, -⟩ | ⟨-, hnil⟩ := List.append_eq_singleton_iff.mp hpieces
    · exact hne rfl
    · exact Text.cut_ne_nil '/' n hnil
  have hplace : ∀ k, d.walk (d.start p) front = .ok k → k = d.place p := by
    intro k hk
    rw [walk_eq_foldl hk, place]
    rcases hf with hf | hf <;> simp [hf, enter, Path.Component.ofPiece?]
  have hwalk : d.walk (d.start p) (front ++ [n]) = .ok (enter (d.place p) n) ↔ d.isDirectory p = true := by
    rw [isDirectory_iff_exists_walk, walk_append_eq_ok_iff]
    constructor
    · rintro ⟨k, hk, hlast⟩
      obtain rfl := hplace k hk
      have hdir := (walk_cons_eq_ok_iff.mp hlast).1
      refine ⟨hp, d.place p, ?_, hdir⟩
      rcases hf with hf | hf
      · rwa [hf]
      · rw [hf, walk_append_eq_ok_iff]
        exact ⟨_, hk, walk_cons_eq_ok_iff.mpr ⟨hdir, rfl⟩⟩
    · rintro ⟨-, m, hm, hdir⟩
      obtain rfl : m = d.place p := walk_eq_foldl hm
      rcases hf with hf | hf
      · rw [hf] at hm
        exact ⟨_, hm, walk_cons_eq_ok_iff.mpr ⟨hdir, rfl⟩⟩
      · rw [hf, walk_append_eq_ok_iff] at hm
        obtain ⟨k, hk, -⟩ := hm
        obtain rfl := hplace k hk
        exact ⟨_, hk, walk_cons_eq_ok_iff.mpr ⟨hdir, rfl⟩⟩
  have hstart : d.start (p.join ⟨n⟩) = d.start p := by rw [start, start, Path.isAbsolute_join p hrel]
  rw [find_eq_ok_iff, locate_eq_ok_iff, place_join_name hn, hj, hstart, Path.pieces_of_not_mem hn, hwalk]
  simp [htext]

lemma lookup?_place_of_isDirectory (h : d.isDirectory p = true) : d.lookup? (d.place p) = some .directory :=
  (find_eq_ok_iff.mp (isDirectory_iff.mp h)).2

lemma lookup?_place_of_holds_join (hn : '/' ∉ n) (h : d.holds (p.join ⟨n⟩) = true) :
    d.lookup? (d.place p) = some .directory := by
  obtain ⟨e, he⟩ := holds_iff.mp h
  by_cases ht : p.text = []
  · have hw := (locate_eq_ok_iff.mp (find_eq_ok_iff.mp he).1).2
    rw [Path.join, if_pos (Or.inr ht), Path.pieces_of_not_mem hn, start, Path.isAbsolute_of_not_mem hn] at hw
    rw [place_eq_foldl, Path.steps_of_text_nil ht]
    exact (walk_cons_eq_ok_iff.mp hw).1
  · exact lookup?_place_of_isDirectory ((find_join_name hn ht).mp he).1

end Disk

namespace Glob

open Disk

variable {d : Disk} {only : Bool} {part : Part} {parts parts' rest : List Part} {dir next q : Path}
  {name s : Text} {ps : List Text} {k : Nat}

lemma isDirectory_and_isName (h : name ∈ names d dir) : d.isDirectory dir = true ∧ Path.IsName name := by
  rw [names] at h
  split at h
  · next l _ =>
    split_ifs at h with hdir
    · exact ⟨hdir, Disk.isName_of_mem_names h⟩
    · cases h
  · cases h

lemma steps_eq_nil_of_same (h : dir.same currentDirectory = true) : dir.steps = [] := by
  rw [Path.steps, Path.same_iff.mp h]
  rfl

lemma steps_join_name (dir : Path) (h : '/' ∉ name) :
    (dir.join ⟨name⟩).steps = dir.steps ++ (Path.Component.ofPiece? name).toList := by
  rw [Path.steps_join dir (Path.isAbsolute_of_not_mem h), Path.steps_of_not_mem h]

lemma steps_child (dir : Path) (h : '/' ∉ name) :
    (child dir name).steps = dir.steps ++ (Path.Component.ofPiece? name).toList := by
  rw [child]
  split_ifs with hs
  · rw [steps_eq_nil_of_same hs, Path.steps_of_not_mem h, List.nil_append]
  · exact steps_join_name dir h

lemma child_of_steps (h : dir.steps ≠ []) (name : Text) : child dir name = dir.join ⟨name⟩ :=
  if_neg fun hs => h (steps_eq_nil_of_same hs)

lemma mem_search_literal_iff : q ∈ search d only (.literal name :: parts) dir ↔
    (if name = ['.'] ∨ name = ['.', '.'] then d.isDirectory dir else d.holds (child dir name)) = true ∧
      q ∈ search d only parts (child dir name) := by
  rw [search]
  simp only [List.mem_ite_nil_right]

lemma mem_search_wild_iff {ts : List Token} : q ∈ search d only (.wild ts :: parts) dir ↔
    (∃ name, (Part.wild ts).startsWithDot = true ∧ d.isDirectory dir = true ∧ (name = ['.', '.'] ∨ name = ['.']) ∧
      (Part.wild ts).accepts name = true ∧ q ∈ search d only parts (dir.join ⟨name⟩)) ∨
    ∃ name ∈ names d dir, (Part.wild ts).accepts name = true ∧ q ∈ search d only parts (child dir name) := by
  simp only [search, List.mem_append, List.mem_flatMap, List.mem_ite_nil_right, Bool.and_eq_true, List.mem_cons,
    List.not_mem_nil, or_false, and_assoc]

/-- Whether a part may lead from a directory to the one above it. -/
def Part.climbs (part : Part) : Bool :=
  part = .literal ['.', '.'] || part.startsWithDot && part.accepts ['.', '.']

inductive Enters (d : Disk) (parts : List Part) (dir : Path) : Path → Prop where
  | literal {name : Text} (hpart : .literal name ∈ parts) (hdir : d.isDirectory dir ∨ d.holds (child dir name)) :
    Enters d parts dir (child dir name)
  | special {part : Part} {name : Text} (hpart : part ∈ parts) (hdot : part.startsWithDot)
    (hname : name = ['.', '.'] ∨ name = ['.']) (ha : part.accepts name) (hdir : d.isDirectory dir) :
    Enters d parts dir (dir.join ⟨name⟩)
  | found {name : Text} (h : name ∈ names d dir) : Enters d parts dir (child dir name)

lemma Enters.mono (hp : parts ⊆ parts') (h : Enters d parts dir next) : Enters d parts' dir next := by
  cases h with
  | literal hpart hdir => exact .literal (hp hpart) hdir
  | special hpart hdot hname ha hdir => exact .special (hp hpart) hdot hname ha hdir
  | found h => exact .found h

open Relation

lemma transGen_of_mem_below (parts : List Part) (h : (q, name) ∈ below d k dir) :
    TransGen (Enters d parts) dir q := by
  induction k generalizing dir with
  | zero => cases h
  | succ k ih =>
    obtain ⟨n, hn, hq⟩ := List.mem_flatMap.mp h
    rcases List.mem_cons.mp hq with hq | hq
    · obtain ⟨rfl, -⟩ := Prod.mk.inj hq
      exact .single (.found hn)
    · exact .head (.found hn) (ih hq)

lemma transGen_of_tail (hsub : rest ⊆ parts) (h : TransGen (Enters d parts) dir next)
    (hq : ReflTransGen (Enters d rest) next q) :
    ReflTransGen (Enters d parts) dir q ∧ (parts ≠ [] → TransGen (Enters d parts) dir q) := by
  have hall := h.trans_left (ReflTransGen.mono (fun _ _ => Enters.mono hsub) _ _ hq)
  exact ⟨hall.to_reflTransGen, fun _ => hall⟩

lemma transGen_of_mem_search :
    (parts : List Part) → {dir : Path} → q ∈ search d only parts dir →
      ReflTransGen (Enters d parts) dir q ∧ (parts ≠ [] → TransGen (Enters d parts) dir q)
  | [], dir, h => by
    rw [search] at h
    split_ifs at h with hd
    · cases h
    · exact ⟨List.mem_singleton.mp h ▸ .refl, fun hne => absurd rfl hne⟩
  | .literal name :: parts, dir, h => by
    obtain ⟨hfound, hq⟩ := mem_search_literal_iff.mp h
    refine transGen_of_tail (List.subset_cons_self _ _) (.single (.literal List.mem_cons_self ?_))
      (transGen_of_mem_search parts hq).1
    split_ifs at hfound
    · exact Or.inl hfound
    · exact Or.inr hfound
  | [.directories], dir, h => by
    rw [search] at h
    obtain ⟨⟨p, name⟩, hp, rfl⟩ := List.mem_map.mp (List.mem_filter.mp h).1
    have hall := transGen_of_mem_below [.directories] hp
    exact ⟨hall.to_reflTransGen, fun _ => hall⟩
  | .directories :: part :: parts, dir, h => by
    rw [search] at h
    obtain ⟨⟨p, name⟩, hp, hq⟩ := List.mem_flatMap.mp h
    simp only at hq
    split_ifs at hq
    · exact transGen_of_tail (fun _ hm => List.mem_cons_of_mem _ (List.mem_cons_of_mem _ hm))
        (transGen_of_mem_below _ hp)
        (transGen_of_mem_search parts hq).1
    · cases hq
  | .wild ts :: parts, dir, h => by
    rcases mem_search_wild_iff.mp h with ⟨name, hdot, hdir, hname, ha, hq⟩ | ⟨name, hname, -, hq⟩
    · exact transGen_of_tail (List.subset_cons_self _ _) (.single (.special List.mem_cons_self hdot hname ha hdir))
        (transGen_of_mem_search parts hq).1
    · exact transGen_of_tail (List.subset_cons_self _ _) (.single (.found hname))
        (transGen_of_mem_search parts hq).1

lemma lookup?_of_holds_child (hn : '/' ∉ name) (h : d.holds (child dir name) = true) :
    d.lookup? (d.place dir) = some .directory := by
  rw [child] at h
  split_ifs at h with hs
  · -- the current directory leads where the path without text does
    have hempty : (⟨[]⟩ : Path).join ⟨name⟩ = ⟨name⟩ := by simp [Path.join]
    have hsteps : dir.steps = (⟨[]⟩ : Path).steps :=
      (steps_eq_nil_of_same hs).trans (Path.steps_of_text_nil rfl).symm
    rw [place_eq_of_steps hsteps]
    exact lookup?_place_of_holds_join hn (hempty.symm ▸ h)
  · exact lookup?_place_of_holds_join hn h

lemma Enters.lookup? (hparts : ∀ name, .literal name ∈ parts → '/' ∉ name) (h : Enters d parts dir next) :
    d.lookup? (d.place dir) = some .directory := by
  cases h with
  | literal hpart hfound =>
    rcases hfound with hdir | hholds
    · exact lookup?_place_of_isDirectory hdir
    · exact lookup?_of_holds_child (hparts _ hpart) hholds
  | special _ _ _ _ hdir => exact lookup?_place_of_isDirectory hdir
  | found h => exact lookup?_place_of_isDirectory (isDirectory_and_isName h).1

lemma lookup?_of_mem_search (hparts : ∀ name, .literal name ∈ parts → '/' ∉ name) (hne : parts ≠ [] ∨ only = true)
    (h : q ∈ search d only parts dir) : d.lookup? (d.place dir) = some .directory := by
  by_cases hnil : parts = []
  · subst hnil
    rw [search, hne.resolve_left (by simp)] at h
    split_ifs at h with hdir
    · cases h
    · exact lookup?_place_of_isDirectory (by simpa using hdir)
  · obtain ⟨next, hfirst, -⟩ := TransGen.head'_iff.mp ((transGen_of_mem_search parts h).2 hnil)
    exact hfirst.lookup? hparts

section Literal

variable (hparts : ∀ name, .literal name ∈ parts → '/' ∉ name)

include hparts

lemma Enters.exists_name (h : Enters d parts dir next) :
    ∃ name, '/' ∉ name ∧ (next = child dir name ∨ next = dir.join ⟨name⟩) ∧
      (Path.Component.ofPiece? name = some .up → ∃ part ∈ parts, part.climbs = true) := by
  cases h with
  | @literal name hpart _ =>
    refine ⟨name, hparts name hpart, Or.inl rfl, fun hup => ⟨_, hpart, ?_⟩⟩
    obtain rfl := Path.Component.ofPiece?_eq_up_iff.mp hup
    rfl
  | @special part name hpart hdot hname ha _ =>
    refine ⟨name, ?_, Or.inr rfl, fun hup => ⟨part, hpart, ?_⟩⟩
    · rcases hname with rfl | rfl <;> decide
    · obtain rfl := Path.Component.ofPiece?_eq_up_iff.mp hup
      rw [Part.climbs, hdot, ha]
      simp
  | @found name hname =>
    obtain ⟨-, hslash, hc⟩ := isDirectory_and_isName hname
    refine ⟨name, hslash, Or.inl rfl, fun hup => ?_⟩
    rw [hc] at hup
    cases hup

lemma exists_steps_of_transGen (h : ReflTransGen (Enters d parts) dir q) :
    ∃ r : Path, r.isAbsolute = false ∧ q.steps = dir.steps ++ r.steps ∧
      (.up ∈ r.steps → ∃ part ∈ parts, part.climbs = true) := by
  induction h with
  | refl => exact ⟨⟨[]⟩, rfl, (List.append_nil _).symm, fun h => by cases h⟩
  | tail _ hs ih =>
    obtain ⟨r, hr, hsteps, hup⟩ := ih
    obtain ⟨name, hslash, hnext, hname⟩ := hs.exists_name hparts
    have hn := Path.isAbsolute_of_not_mem hslash
    refine ⟨r.join ⟨name⟩, (Path.isAbsolute_join r hn).trans hr, ?_, fun h => ?_⟩
    · rw [steps_join_name r hslash, ← List.append_assoc, ← hsteps]
      rcases hnext with rfl | rfl
      · exact steps_child _ hslash
      · exact steps_join_name _ hslash
    · rw [steps_join_name r hslash, List.mem_append, Option.mem_toList] at h
      exact h.elim hup hname

lemma components_of_transGen (h : ReflTransGen (Enters d parts) dir q) (hne : dir.steps ≠ [])
    (hc : dir.components = dir.steps) : q.components = q.steps := by
  -- a path without steps may be spelled as the current directory, which `child` drops
  suffices q.steps ≠ [] ∧ q.components = q.steps from this.2
  induction h with
  | refl => exact ⟨hne, hc⟩
  | @tail p next _ hs ih =>
    obtain ⟨hp, hpc⟩ := ih
    obtain ⟨name, hslash, hnext, -⟩ := hs.exists_name hparts
    obtain rfl : next = p.join ⟨name⟩ := hnext.elim (fun h => h.trans (child_of_steps hp name)) id
    have hn := Path.isAbsolute_of_not_mem hslash
    have ht : p.text ≠ [] := fun ht => hp (Path.steps_of_text_nil ht)
    rw [Path.components_join ht hn, Path.steps_join p hn, hpc]
    exact ⟨List.append_ne_nil_of_left_ne_nil hp _, rfl⟩

end Literal

lemma mem_search_of_standsFor (hpart : part.StandsFor s) (h : q ∈ search d only (part :: parts) dir) :
    q ∈ search d only parts (child dir s) := by
  cases hpart with
  | literal => exact (mem_search_literal_iff.mp h).2
  | wild haccepts hdot hup =>
    rcases mem_search_wild_iff.mp h with ⟨name, -, -, hname, ha, -⟩ | ⟨name, -, ha, hq⟩
    · obtain rfl := haccepts name ha
      exact (hname.elim hup hdot).elim
    · exact haccepts name ha ▸ hq

lemma mem_search_of_plainParts (h : q ∈ search d only (ps.map plainPart ++ rest) dir) :
    q ∈ search d only rest (ps.foldl child dir) := by
  induction ps generalizing dir with
  | nil => exact h
  | cons piece ps ih => exact ih (mem_search_of_standsFor (standsFor_plainPart piece) h)

lemma steps_foldl_child (hps : ∀ piece ∈ ps, '/' ∉ piece) (dir : Path) :
    (ps.foldl child dir).steps = dir.steps ++ ps.filterMap Path.Component.ofPiece? := by
  induction ps generalizing dir with
  | nil => exact (List.append_nil _).symm
  | cons piece ps ih =>
    obtain ⟨hpiece, hps⟩ := List.forall_mem_cons.mp hps
    rw [List.foldl_cons, ih hps, steps_child dir hpiece, List.append_assoc]
    cases hc : Path.Component.ofPiece? piece <;> simp [hc]

lemma components_foldl_child (hps : ∀ piece ∈ ps, '/' ∉ piece)
    (h : dir.same currentDirectory = true ∨ dir.components = dir.steps) :
    (ps.foldl child dir).same currentDirectory = true ∨
      (ps.foldl child dir).components = (ps.foldl child dir).steps := by
  induction ps generalizing dir with
  | nil => exact h
  | cons piece ps ih =>
    obtain ⟨hpiece, hps⟩ := List.forall_mem_cons.mp hps
    have hn := Path.isAbsolute_of_not_mem hpiece
    have halone : (⟨piece⟩ : Path).same currentDirectory = true ∨
        (⟨piece⟩ : Path).components = (⟨piece⟩ : Path).steps := by
      by_cases hdot : piece = ['.']
      · subst hdot
        exact Or.inl (Path.same_refl _)
      · rw [Path.components_eq, Path.pieces_of_not_mem hpiece]
        simp [hdot]
    refine ih hps ?_
    rw [child]
    split_ifs with hs
    · exact halone
    · by_cases ht : dir.text = []
      · rwa [Path.join, if_pos (Or.inr ht)]
      · rw [Path.components_join ht hn, Path.steps_join dir hn, h.resolve_left hs]
        exact Or.inr rfl

end Glob
end CommentBlocks
