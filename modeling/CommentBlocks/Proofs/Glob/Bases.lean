import CommentBlocks.Proofs.Glob.Counterparts
import CommentBlocks.Proofs.Glob.Validity

namespace CommentBlocks

namespace Disk

variable {d : Disk} {p q : Path} {l : Location} {ps : List Text}

lemma exists_walk_iff : (∃ m, d.walk l ps = .ok m ∧ d.lookup? m = some .directory) ↔
    ∀ cs, cs <+: ps.filterMap Path.Component.ofPiece? → d.lookup? (cs.foldl step l) = some .directory := by
  induction ps generalizing l with
  | nil => simp [walk]
  | cons piece ps ih =>
    simp only [walk_cons_eq_ok_iff, and_assoc, exists_and_left, ih, enter_eq_foldl]
    cases hc : Path.Component.ofPiece? piece with
    | none =>
      rw [List.filterMap_cons_none hc]
      exact ⟨fun h => h.2, fun h => ⟨h [] List.nil_prefix, h⟩⟩
    | some c =>
      rw [List.filterMap_cons_some hc]
      constructor
      · rintro ⟨hl, h⟩ cs hcs
        rcases List.prefix_cons_iff.mp hcs with rfl | ⟨rest, rfl, hrest⟩
        · exact hl
        · exact h rest hrest
      · intro h
        exact ⟨h [] List.nil_prefix, fun cs hcs => h (c :: cs) (List.prefix_cons_inj c |>.mpr hcs)⟩

lemma isDirectory_of_steps (h : p.steps = q.steps) (hq : q.text ≠ []) (hp : d.isDirectory p = true) :
    d.isDirectory q = true := by
  have ha := Path.isAbsolute_eq_of_steps h
  have hpieces : p.pieces.filterMap Path.Component.ofPiece? = q.pieces.filterMap Path.Component.ofPiece? := by
    rw [Path.steps_eq, Path.steps_eq, ha] at h
    exact List.append_cancel_left h
  have hstart : d.start p = d.start q := by rw [start, start, ha]
  rw [isDirectory_iff_exists_walk, exists_walk_iff] at hp ⊢
  rw [← hstart, ← hpieces]
  exact ⟨hq, hp.2⟩

end Disk

namespace Glob

open Disk

variable {d : Disk} {only : Bool} {parts rest : List Part} {dir base : Path} {piece pattern : Text}
  {ps : List Text}

lemma flatMap_ite_eq {α : Type} {names : List Text} {accepts : Text → Bool} {f : Text → List α}
    (hnodup : names.Nodup) (hm : piece ∈ names) (haccepts : ∀ name, accepts name = true ↔ name = piece) :
    (names.flatMap fun name => if accepts name then f name else []) = f piece := by
  induction names with
  | nil => cases hm
  | cons name names ih =>
    obtain ⟨hnot, hnodup⟩ := List.nodup_cons.mp hnodup
    rw [List.flatMap_cons]
    rcases List.mem_cons.mp hm with rfl | hm
    · have hrest : (names.flatMap fun name => if accepts name then f name else []) = [] := by
        refine List.flatMap_eq_nil_iff.mpr fun x hx => if_neg fun ha => hnot ?_
        exact (haccepts x).mp ha ▸ hx
      rw [if_pos ((haccepts piece).mpr rfl), hrest, List.append_nil]
    · have hskip : ¬ accepts name = true := fun ha => hnot ((haccepts name).mp ha ▸ hm)
      rw [if_neg hskip, List.nil_append, ih hnodup hm]

lemma search_plainPart (hn : '/' ∉ piece) (hup : piece ≠ ['.', '.']) (hdir : d.isDirectory dir = true)
    (hchild : d.holds (child dir piece) = true) :
    search d only (plainPart piece :: rest) dir = search d only rest (child dir piece) := by
  rcases plainPart_cases piece with hpart | ⟨hpart, c, hc, hmeta⟩
  · rw [hpart]
    simp only [search, hdir, hchild]
    split_ifs <;> simp_all
  · have hspecial : piece ≠ ['.'] := by
      rintro rfl
      rw [List.mem_singleton.mp hc] at hmeta
      exact absurd hmeta (by decide)
    have hname : Path.Component.ofPiece? piece = some (.name piece) :=
      Path.Component.ofPiece?_eq_name_iff.mpr ⟨⟨List.ne_nil_of_mem hc, hspecial, hup⟩, rfl⟩
    have haccepts : ∀ name, (Part.wild (piece.map plainToken)).accepts name = true ↔ name = piece := fun name =>
      accepts_map_plainToken
    have hmem : piece ∈ names d dir := by
      obtain ⟨e, he⟩ := holds_iff.mp hchild
      rw [names_eq, hdir, if_pos rfl, mem_names_iff, ← place_child dir ⟨hn, hname⟩, (find_eq_ok_iff.mp he).2]
      rfl
    have hnodup : (names d dir).Nodup := by
      rw [names_eq, hdir, if_pos rfl]
      exact (pairwise_names d _).imp ne_of_lt
    have hnone : ∀ special : List Text, special ⊆ [['.', '.'], ['.']] → (special.flatMap fun name =>
        if (Part.wild (piece.map plainToken)).accepts name then
          search d only rest (dir.join ⟨name⟩) else []) = [] := by
      refine fun special hsub => List.flatMap_eq_nil_iff.mpr fun name hm => if_neg fun ha => ?_
      obtain rfl := (haccepts name).mp ha
      have := hsub hm
      simp [hspecial, hup] at this
    rw [hpart, search_wild, hnone _ (by split_ifs <;> simp), List.nil_append]
    exact flatMap_ite_eq hnodup hmem haccepts

lemma isDirectory_of_foldl_child (hdir : dir.steps ≠ []) (hps : ∀ piece ∈ ps, '/' ∉ piece)
    (h : d.isDirectory (ps.foldl child dir) = true) : d.isDirectory dir = true := by
  induction ps generalizing dir with
  | nil => exact h
  | cons piece ps ih =>
    obtain ⟨hpiece, hps⟩ := List.forall_mem_cons.mp hps
    have hchild := ih (by rw [steps_child dir hpiece]; exact List.append_ne_nil_of_left_ne_nil hdir _) hps h
    rw [child_of_steps hdir, isDirectory_iff, find_join_name hpiece (Path.text_ne_nil_of_steps hdir)] at hchild
    exact hchild.1

lemma search_plainParts (hdir : dir.steps ≠ []) (hps : ∀ piece ∈ ps, '/' ∉ piece ∧ piece ≠ ['.', '.'])
    (h : d.isDirectory (ps.foldl child dir) = true) :
    search d only (ps.map plainPart ++ rest) dir = search d only rest (ps.foldl child dir) := by
  have hslash : ∀ piece ∈ ps, '/' ∉ piece := fun piece hm => (hps piece hm).1
  induction ps generalizing dir with
  | nil => rfl
  | cons piece ps ih =>
    obtain ⟨⟨hpiece, hup⟩, hps⟩ := List.forall_mem_cons.mp hps
    obtain ⟨-, hslash'⟩ := List.forall_mem_cons.mp hslash
    have hsteps : (child dir piece).steps ≠ [] := by
      rw [steps_child dir hpiece]
      exact List.append_ne_nil_of_left_ne_nil hdir _
    have hchild := isDirectory_of_foldl_child hsteps hslash' h
    rw [List.map_cons, List.cons_append, search_plainPart hpiece hup (isDirectory_of_foldl_child hdir hslash h)
      (holds_iff.mpr ⟨_, isDirectory_iff.mp hchild⟩), ih hsteps hps h hslash']
    rfl

lemma filterMap_pieces_ne_nil (hb : base.Ordinary) : base.pieces.filterMap Path.Component.ofPiece? ≠ [] := by
  intro hnil
  obtain ⟨c, hc, hroot⟩ := hb.2
  rw [hb.components_eq_steps, Path.steps_eq, hnil, List.append_nil] at hc
  split_ifs at hc
  · exact hroot (List.mem_singleton.mp hc)
  · cases hc

lemma up_not_mem_pieces (hb : base.Ordinary) : ['.', '.'] ∉ base.pieces := by
  intro hm
  refine hb.up_not_mem ?_
  rw [hb.components_eq_steps, Path.steps_eq]
  exact List.mem_append_right _ (List.mem_filterMap.mpr ⟨_, hm, rfl⟩)

lemma name_of_head?_pieces (hb : base.Ordinary) (ha : base.isAbsolute = false)
    (h : base.pieces.head? = some piece) : Path.Component.ofPiece? piece = some (.name piece) := by
  obtain ⟨rest, hrest⟩ := List.head?_eq_some_iff.mp h
  refine Path.Component.ofPiece?_eq_name_iff.mpr ⟨⟨?_, ?_, ?_⟩, rfl⟩
  · rintro rfl
    cases rest with
    | nil =>
      have hne := filterMap_pieces_ne_nil hb
      rw [hrest] at hne
      exact hne rfl
    | cons next rest =>
      rw [Path.isAbsolute_iff.mpr ⟨next, rest, hrest⟩] at ha
      cases ha
  · rintro rfl
    have hhere : .here ∈ base.components := by
      rw [Path.components_eq, if_pos h]
      exact List.mem_cons_self
    exact (hb.1 _ hhere).1 rfl
  · rintro rfl
    exact up_not_mem_pieces hb (hrest ▸ List.mem_cons_self)

lemma child_currentDirectory (name : Text) : child currentDirectory name = ⟨name⟩ :=
  if_pos (Path.same_refl currentDirectory)

lemma isDirectory_currentDirectory (hn : '/' ∉ piece) (h : d.isDirectory ⟨piece⟩ = true) :
    d.isDirectory currentDirectory = true := by
  rw [isDirectory_iff_exists_walk, Path.pieces_of_not_mem hn, Disk.start, Path.isAbsolute_of_not_mem hn] at h
  obtain ⟨-, m, hm, -⟩ := h
  have hdir := (walk_cons_eq_ok_iff.mp hm).1
  exact isDirectory_iff_exists_walk.mpr ⟨by decide, d.working, walk_cons_eq_ok_iff.mpr ⟨hdir, rfl⟩, hdir⟩

lemma exists_start_of_base (hb : base.Ordinary) (hdir : d.isDirectory base = true)
    (hpre : (if base.isAbsolute then [] :: ps else ps) <+: base.pieces)
    (hpieces : ps.filterMap Path.Component.ofPiece? = base.pieces.filterMap Path.Component.ofPiece?) :
    ∃ start : Path, start.components = base.components ∧ d.isDirectory start = true ∧ ∀ only rest,
      search d only (ps.map plainPart ++ rest) (if base.isAbsolute then ⟨['/']⟩ else currentDirectory) =
        search d only rest start := by
  have hsub := subset_pieces_of_prefix hpre
  have hps : ∀ piece ∈ ps, '/' ∉ piece ∧ piece ≠ ['.', '.'] := fun piece hm =>
    ⟨Text.sep_not_mem_of_mem_cut (hsub hm), fun hup => up_not_mem_pieces hb (hup ▸ hsub hm)⟩
  have hslash : ∀ piece ∈ ps, '/' ∉ piece := fun piece hm => (hps piece hm).1
  obtain ⟨root, hroot, hrootSteps, hsame⟩ := exists_start base.isAbsolute
  have hsteps : (ps.foldl child root).steps = base.steps := by
    rw [steps_foldl_child hslash, Path.steps_eq base, hpieces, hrootSteps]
  have hne : (ps.foldl child root).steps ≠ [] := hsteps ▸ hb.steps_ne_nil
  have hcomponents := (components_foldl_child hslash hsame).resolve_left fun hs => hne (steps_eq_nil_of_same hs)
  have hstart := isDirectory_of_steps hsteps.symm (Path.text_ne_nil_of_steps hne) hdir
  refine ⟨ps.foldl child root, ?_, hstart, fun only rest => ?_⟩
  · rw [hcomponents, hsteps, hb.components_eq_steps]
  · rw [hroot]
    cases ha : base.isAbsolute with
    | true =>
      rw [ha] at hrootSteps
      exact search_plainParts (by rw [hrootSteps]; exact List.cons_ne_nil _ _) hps hstart
    | false =>
      -- the first piece is a name in the current directory, which the path does not show
      rw [ha] at hroot hpre
      obtain rfl : currentDirectory = root := hroot
      cases ps with
      | nil => exact absurd hpieces.symm (filterMap_pieces_ne_nil hb)
      | cons piece ps =>
        obtain ⟨later, hlater⟩ := hpre
        have hname := name_of_head?_pieces hb ha (by rw [← hlater]; rfl)
        obtain ⟨⟨hpiece, hup⟩, hrest⟩ := List.forall_mem_cons.mp hps
        rw [List.foldl_cons, child_currentDirectory] at hstart ⊢
        have hfirst : (⟨piece⟩ : Path).steps ≠ [] := by
          rw [Path.steps_of_not_mem hpiece, hname]
          exact List.cons_ne_nil _ _
        have hpieceDir := isDirectory_of_foldl_child hfirst (fun piece hm => (hrest piece hm).1) hstart
        rw [List.map_cons, List.cons_append,
          search_plainPart hpiece hup (isDirectory_currentDirectory hpiece hpieceDir)
            (by rw [child_currentDirectory]; exact holds_iff.mpr ⟨_, isDirectory_iff.mp hpieceDir⟩),
          child_currentDirectory, search_plainParts hfirst hrest hstart]

lemma parse_join_escape_of_ordinary (hp : (⟨pattern⟩ : Path).isAbsolute = false)
    (hv : (tokens pattern).isOk = true)
    (hparts : (cutParts pattern).mapM readPart = .ok parts) (hb : base.Ordinary) :
    ∃ ps, (if base.isAbsolute then [] :: ps else ps) <+: base.pieces ∧
      ps.filterMap Path.Component.ofPiece? = base.pieces.filterMap Path.Component.ofPiece? ∧
      Pattern.parse (Path.join ⟨escape base.text⟩ ⟨pattern⟩).text =
        .ok ⟨base.isAbsolute, ps.map plainPart ++ collapse parts, ('/' :: pattern).getLast? = some '/'⟩ := by
  obtain ⟨front, hfront⟩ := text_join_escape hp (Path.text_ne_nil_of_steps hb.steps_ne_nil)
  obtain ⟨ha, ps, hpre, hpieces, hcut⟩ := @exists_cut_join_escape _ pattern base hp rfl
  refine ⟨ps, hpre, hpieces, ?_⟩
  obtain ⟨ts, hts⟩ := isOk_iff.mp ((isOk_tokens_join_escape hp base).trans hv)
  have hrest : afterRoot (Path.join ⟨escape base.text⟩ ⟨pattern⟩).text ≠ [] := by
    intro hnil
    rw [hnil] at hcut
    obtain ⟨hps, -⟩ | ⟨-, hnone⟩ := List.singleton_eq_append_iff.mp hcut
    · rw [List.map_eq_nil_iff.mp hps] at hpieces
      exact filterMap_pieces_ne_nil hb hpieces.symm
    · exact absurd hnone (Text.cut_ne_nil '/' pattern)
  rw [parse_eq, hts, cutParts_of_cut hcut, mapM_readPart_append, hparts, ha, hfront,
    List.getLast?_append_of_ne_nil _ (List.cons_ne_nil _ _)]
  rw [hfront] at hrest
  simp [Except.bind, Except.map, hrest, collapse_append]

lemma exists_search_of_isValid (hp : (⟨pattern⟩ : Path).isAbsolute = false) (hv : isValid pattern = true) :
    ∃ only parts, (∀ name, .literal name ∈ parts → '/' ∉ name) ∧ ∀ (d : Disk) (base : Path), base.Ordinary →
      d.isDirectory base = true → ∃ p, Pattern.parse (Path.join ⟨escape base.text⟩ ⟨pattern⟩).text = .ok p ∧
        ∃ start : Path, start.components = base.components ∧ d.isDirectory start = true ∧
          p.paths d = search d only parts start := by
  rw [isValid_eq, afterRoot_of_isAbsolute hp, Bool.and_eq_true] at hv
  obtain ⟨hts, hparts⟩ := hv
  obtain ⟨parts, hparts⟩ := isOk_iff.mp hparts
  refine ⟨('/' :: pattern).getLast? = some '/', collapse parts, fun name hm => ?_, fun d base hb hdir => ?_⟩
  · obtain ⟨piece, hpiece, hpart⟩ := exists_of_mem_mapM hparts (mem_collapse hm)
    obtain ⟨ts, hts, hof⟩ := exists_of_bind_eq_ok hpart
    exact slash_not_mem_of_literal hts (Text.sep_not_mem_of_mem_cut (cutParts_subset pattern hpiece))
      (Except.ok.inj hof)
  · obtain ⟨ps, hpre, hpieces, hparse⟩ := parse_join_escape_of_ordinary hp hts hparts hb
    obtain ⟨start, hcomponents, hstart, hsearch⟩ := exists_start_of_base hb hdir hpre hpieces
    exact ⟨_, hparse, start, hcomponents, hstart, hsearch _ _⟩

end Glob
end CommentBlocks
