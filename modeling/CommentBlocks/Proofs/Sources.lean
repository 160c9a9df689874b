import CommentBlocks.Proofs.Glob.Finding

namespace CommentBlocks

namespace Glob

variable {s t pattern : Text} {ps : List Text} {parts : List Part} {part : Part} {p : Pattern}

lemma isAbsolute_escape (s : Text) : (⟨escape s⟩ : Path).isAbsolute = (⟨s⟩ : Path).isAbsolute := by
  cases s with
  | nil => rfl
  | cons c s =>
    rw [Path.isAbsolute, Path.isAbsolute]
    by_cases hc : c ∈ metaChars
    · simp [escape_cons_of_mem hc, ne_slash_of_mem hc]
    · rw [escape_cons_of_not_mem hc, List.head?_cons, List.head?_cons]

lemma exists_pieces_join_escape {base : Path} (hp : (⟨pattern⟩ : Path).isAbsolute = false) :
    ∃ front, front <+: base.pieces ∧
      front.filterMap Path.Component.ofPiece? = base.pieces.filterMap Path.Component.ofPiece? ∧
      (Path.join ⟨escape base.text⟩ ⟨pattern⟩).pieces = front.map escape ++ Text.cut '/' pattern := by
  by_cases ht : base.text = []
  · refine ⟨[], List.nil_prefix, ?_, ?_⟩
    · rw [Path.pieces, ht]
      rfl
    · rw [Path.join, if_pos (Or.inr (escape_eq_nil_iff.mpr ht))]
      rfl
  · obtain ⟨front, -, hj, hf⟩ :=
      Path.exists_pieces_join (p := ⟨escape base.text⟩) (escape_eq_nil_iff.not.mpr ht) hp
    have hpieces : (⟨escape base.text⟩ : Path).pieces = base.pieces.map escape := cut_escape base.text
    rw [hpieces] at hf
    rcases hf with rfl | hf
    · exact ⟨base.pieces, List.prefix_rfl, rfl, hj⟩
    · obtain ⟨kept, last, hbase, rfl, hlast⟩ := List.map_eq_append_iff.mp hf
      obtain ⟨piece, rfl, hpiece⟩ := List.map_eq_singleton_iff.mp hlast
      obtain rfl := escape_eq_nil_iff.mp hpiece
      refine ⟨kept, hbase ▸ List.prefix_append _ _, ?_, hj⟩
      rw [hbase, List.filterMap_append]
      simp [Path.Component.ofPiece?]

def afterRoot (s : Text) : Text := if s.head? = some '/' then s.tail else s

lemma exists_cut_join_escape {base : Path} (hp : (⟨pattern⟩ : Path).isAbsolute = false)
    (hs : s = (Path.join ⟨escape base.text⟩ ⟨pattern⟩).text) :
    decide (s.head? = some '/') = base.isAbsolute ∧
      ∃ ps, (if base.isAbsolute then [] :: ps else ps) <+: base.pieces ∧
        ps.filterMap Path.Component.ofPiece? = base.pieces.filterMap Path.Component.ofPiece? ∧
        Text.cut '/' (afterRoot s) = ps.map escape ++ Text.cut '/' pattern := by
  have ha : decide (s.head? = some '/') = base.isAbsolute := by
    rw [hs]
    exact (Path.isAbsolute_join _ hp).trans (isAbsolute_escape base.text)
  obtain ⟨front, hpre, hsteps, hpieces⟩ := @exists_pieces_join_escape pattern base hp
  have hcut : Text.cut '/' s = front.map escape ++ Text.cut '/' pattern := hs ▸ hpieces
  refine ⟨ha, ?_⟩
  rw [afterRoot, ← ha]
  simp only [decide_eq_true_eq]
  split_ifs with hhead
  · obtain ⟨r, rfl⟩ := List.head?_eq_some_iff.mp hhead
    rw [Text.cut_cons_sep] at hcut
    cases front with
    | nil =>
      -- then the pattern itself would begin with the slash
      obtain ⟨x, rest, hx⟩ := List.exists_cons_of_ne_nil (Text.cut_ne_nil '/' r)
      have habs : (⟨pattern⟩ : Path).isAbsolute = true :=
        Path.isAbsolute_iff.mpr ⟨x, rest, by rw [← hx]; exact hcut.symm⟩
      rw [hp] at habs
      cases habs
    | cons piece ps =>
      obtain ⟨hpiece, hrest⟩ := List.cons.inj hcut
      obtain rfl := escape_eq_nil_iff.mp hpiece.symm
      exact ⟨ps, hpre, hsteps, hrest⟩
  · exact ⟨front, hpre, hsteps, hcut⟩

lemma subset_pieces_of_prefix {base : Path} (h : (if base.isAbsolute then [] :: ps else ps) <+: base.pieces) :
    ps ⊆ base.pieces := by
  split_ifs at h
  · exact List.Subset.trans (List.subset_cons_self _ _) h.subset
  · exact h.subset

lemma cutParts_of_cut (h : Text.cut '/' s = ps ++ Text.cut '/' pattern) : cutParts s = ps ++ cutParts pattern := by
  have hlast : (Text.cut '/' s).getLast? = (Text.cut '/' pattern).getLast? := by
    rw [h, List.getLast?_append_of_ne_nil _ (Text.cut_ne_nil '/' pattern)]
  rw [cutParts, cutParts, hlast]
  split_ifs
  · rw [h, List.dropLast_append_of_ne_nil (Text.cut_ne_nil '/' pattern)]
  · exact h

lemma cutParts_subset (s : Text) : cutParts s ⊆ Text.cut '/' s := by
  rw [cutParts]
  split_ifs
  · exact (List.dropLast_sublist _).subset
  · exact List.Subset.refl _

lemma eq_nil_of_cutParts (h : cutParts s = []) : s = [] := by
  rw [cutParts] at h
  split_ifs at h with hlast
  · have hcut : Text.cut '/' s = [[]] := by
      obtain ⟨front, hfront⟩ := List.getLast?_eq_some_iff.mp hlast
      rw [hfront, List.dropLast_concat] at h
      rw [hfront, h, List.nil_append]
    rw [← Text.glue_cut '/' s, hcut]
    rfl
  · exact absurd h (Text.cut_ne_nil '/' s)

lemma mem_collapse (h : part ∈ collapse parts) : part ∈ parts := by
  fun_induction collapse parts with
  | case1 parts ih => exact List.mem_cons_of_mem _ (ih h)
  | case2 p parts _ ih =>
    rcases List.mem_cons.mp h with rfl | hm
    · exact List.mem_cons_self
    · exact List.mem_cons_of_mem _ (ih hm)
  | case3 => exact h

lemma collapse_ne_nil (h : parts ≠ []) : collapse parts ≠ [] := by
  fun_induction collapse parts with
  | case1 parts ih => exact ih (List.cons_ne_nil _ _)
  | case2 => exact List.cons_ne_nil _ _
  | case3 => exact absurd rfl h

lemma plainPart_ne_directories (piece : Text) : plainPart piece ≠ .directories := by
  intro h
  have hstands := standsFor_plainPart piece
  rw [h] at hstands
  cases hstands

lemma collapse_append (ps : List Text) (parts : List Part) :
    collapse (ps.map plainPart ++ parts) = ps.map plainPart ++ collapse parts := by
  induction ps with
  | nil => rfl
  | cons piece ps ih =>
    rw [List.map_cons, List.cons_append, List.cons_append, ← ih, collapse]
    exact fun _ h => absurd h (plainPart_ne_directories piece)

def readPart (piece : Text) : Except PatternError Part := do
  return Part.ofTokens (← tokens piece)

lemma mapM_readPart_append (ps qs : List Text) :
    (ps.map escape ++ qs).mapM readPart = (qs.mapM readPart).map (ps.map plainPart ++ ·) := by
  induction ps with
  | nil => cases h : qs.mapM readPart <;> simp [h, Except.map]
  | cons piece ps ih =>
    have hpiece : readPart (escape piece) = .ok (plainPart piece) := by rw [readPart, tokens_escape]; rfl
    rw [List.map_cons, List.cons_append, List.mapM_cons, hpiece, ih]
    cases qs.mapM readPart <;> rfl

lemma parse_eq (s : Text) :
    Pattern.parse s = (tokens s).bind fun _ => ((cutParts (afterRoot s)).mapM readPart).map fun parts =>
      ⟨s.head? = some '/', if (afterRoot s).isEmpty then [.literal []] else collapse parts,
        s.getLast? = some '/'⟩ := by
  rw [Pattern.parse, afterRoot]
  cases tokens s with
  | error e => rfl
  | ok ts =>
    simp only [decide_eq_true_eq]
    rfl

lemma getLast?_join_nil (base : Path) (h : (base.join ⟨[]⟩).text ≠ []) :
    (base.join ⟨[]⟩).text.getLast? = some '/' := by
  rw [Path.join] at h ⊢
  split_ifs at h ⊢ with hbase hlast
  · exact absurd rfl h
  · simpa using hlast
  · simp

lemma parse_join_escape {base : Path} (hp : (⟨pattern⟩ : Path).isAbsolute = false)
    (h : Pattern.parse (Path.join ⟨escape base.text⟩ ⟨pattern⟩).text = .ok p) :
    p.absolute = base.isAbsolute ∧
      ∃ ps ⊆ base.pieces, ps.filterMap Path.Component.ofPiece? = base.pieces.filterMap Path.Component.ofPiece? ∧
        ∃ parts, p.parts = ps.map plainPart ++ parts ∧ (parts ≠ [] ∨ p.directoriesOnly = true) ∧
          ∀ part ∈ parts, ∃ piece ∈ Text.cut '/' pattern, ∃ ts, tokens piece = .ok ts ∧
            part = Part.ofTokens ts := by
  generalize hs : (Path.join ⟨escape base.text⟩ ⟨pattern⟩).text = s at h
  obtain ⟨ha, ps, hpre, hsteps, hcut⟩ := exists_cut_join_escape hp hs.symm
  have hsub := subset_pieces_of_prefix hpre
  rw [parse_eq] at h
  obtain ⟨_, -, h⟩ := exists_of_bind_eq_ok h
  obtain ⟨all, hall, rfl⟩ := map_eq_ok_iff.mp h
  rw [cutParts_of_cut hcut, mapM_readPart_append] at hall
  obtain ⟨parts, hparts, rfl⟩ := map_eq_ok_iff.mp hall
  refine ⟨ha, ps, hsub, hsteps, ?_⟩
  by_cases hrest : afterRoot s = []
  · rw [hrest] at hcut ⊢
    obtain ⟨hps, hpattern⟩ | ⟨-, hnil⟩ := List.singleton_eq_append_iff.mp hcut
    · obtain rfl := List.map_eq_nil_iff.mp hps
      refine ⟨[.literal []], rfl, Or.inl (List.cons_ne_nil _ _), fun part hm => ?_⟩
      exact ⟨[], hpattern ▸ List.mem_singleton_self _, [], rfl, List.mem_singleton.mp hm⟩
    · exact absurd hnil (Text.cut_ne_nil '/' pattern)
  · refine ⟨collapse parts, ?_, ?_, fun part hm => ?_⟩
    · simp only [List.isEmpty_iff, hrest, if_false, collapse_append]
    · by_cases hnil : parts = []
      · -- the pattern is empty, so the path ends in the slash that joins it to the base
        right
        subst hnil
        obtain rfl := eq_nil_of_cutParts (List.forall₂_nil_right_iff.mp (forall₂_of_mapM hparts))
        refine decide_eq_true (hs ▸ getLast?_join_nil _ ?_)
        rintro hnone
        exact hrest (by rw [← hs, hnone]; rfl)
      · exact Or.inl (collapse_ne_nil hnil)
    · obtain ⟨piece, hpiece, hpart⟩ := exists_of_mem_mapM hparts (mem_collapse hm)
      obtain ⟨ts, hts, hof⟩ := exists_of_bind_eq_ok hpart
      exact ⟨piece, cutParts_subset pattern hpiece, ts, hts, (Except.ok.inj hof).symm⟩

def climbs (pattern : Text) : Bool :=
  (Text.cut '/' pattern).any fun piece =>
    match tokens piece with
    | .ok ts => (Part.ofTokens ts).climbs
    | .error _ => false

lemma climbs_of_part {piece : Text} {ts : List Token} (hpiece : piece ∈ Text.cut '/' pattern)
    (hts : tokens piece = .ok ts) (h : (Part.ofTokens ts).climbs = true) : climbs pattern = true :=
  List.any_eq_true.mpr ⟨piece, hpiece, by rw [hts]; exact h⟩

variable {d : Disk} {base q : Path}

lemma exists_start (absolute : Bool) : ∃ start : Path, (if absolute then ⟨['/']⟩ else currentDirectory) = start ∧
    start.steps = (if absolute then [.root] else []) ∧
      (start.same currentDirectory = true ∨ start.components = start.steps) := by
  cases absolute with
  | false => exact ⟨_, rfl, rfl, Or.inl rfl⟩
  | true => exact ⟨_, rfl, rfl, Or.inr rfl⟩

lemma exists_steps_of_mem_paths (hp : (⟨pattern⟩ : Path).isAbsolute = false)
    (h : Pattern.parse (Path.join ⟨escape base.text⟩ ⟨pattern⟩).text = .ok p) (hq : q ∈ p.paths d) :
    d.lookup? (d.place base) = some .directory ∧ (base.steps ≠ [] → q.components = q.steps) ∧
      ∃ r : Path, r.isAbsolute = false ∧ q.steps = base.steps ++ r.steps ∧
        (.up ∈ r.steps → climbs pattern = true) := by
  obtain ⟨ha, ps, hsub, hpieces, parts, hall, hne, hparts⟩ := parse_join_escape hp h
  obtain ⟨start, hstart, hroot, hsame⟩ := exists_start base.isAbsolute
  rw [Pattern.paths, hall, ha, hstart] at hq
  have hfound := mem_search_of_plainParts hq
  have hps : ∀ piece ∈ ps, '/' ∉ piece := fun piece hm => Text.sep_not_mem_of_mem_cut (hsub hm)
  have hc := components_foldl_child hps hsame
  have hsteps : (ps.foldl child start).steps = base.steps := by
    rw [steps_foldl_child hps, Path.steps_eq base, hpieces, hroot]
  have hliteral : ∀ name, .literal name ∈ parts → '/' ∉ name := by
    intro name hm
    obtain ⟨piece, hpiece, ts, hts, hof⟩ := hparts _ hm
    exact slash_not_mem_of_literal hts (Text.sep_not_mem_of_mem_cut hpiece) hof.symm
  have hsearch := (transGen_of_mem_search parts hfound).1
  refine ⟨?_, fun hbase => ?_, ?_⟩
  · rw [← Disk.place_eq_of_steps hsteps]
    exact lookup?_of_mem_search hliteral hne hfound
  · rw [← hsteps] at hbase
    exact components_of_transGen hliteral hsearch hbase (hc.resolve_left fun hs => hbase (steps_eq_nil_of_same hs))
  · obtain ⟨r, hr, hq, hup⟩ := exists_steps_of_transGen hliteral hsearch
    refine ⟨r, hr, hsteps ▸ hq, fun h => ?_⟩
    obtain ⟨part, hm, hclimbs⟩ := hup h
    obtain ⟨piece, hpiece, ts, hts, rfl⟩ := hparts part hm
    exact climbs_of_part hpiece hts hclimbs

end Glob

namespace Target

open Disk

variable {d : Disk} {t : Target} {root source : Path} {found sources paths : List Path}

lemma mem_addSources (h : source ∈ addSources d sources paths) : source ∈ sources ∨ source ∈ paths := by
  induction paths generalizing sources with
  | nil => exact Or.inl h
  | cons p paths ih =>
    rw [addSources, List.foldl_cons, ← addSources] at h
    rcases ih h with hm | hm
    · split_ifs at hm
      · exact Or.inl hm
      · rcases List.mem_append.mp hm with hm | hm
        · exact Or.inl hm
        · exact Or.inr (List.mem_singleton.mp hm ▸ List.mem_cons_self)
    · exact Or.inr (List.mem_cons_of_mem _ hm)

lemma exists_pattern_of_mem_sources (h : t.sources d root = .ok found) :
    ∀ source ∈ found, ∃ pattern ∈ t.patterns, ∃ p, Glob.Pattern.parse (t.fullPattern root pattern) = .ok p ∧
      source ∈ p.paths d := by
  refine foldlM_preserves (P := fun sources => ∀ source ∈ sources, ∃ pattern ∈ t.patterns, ∃ p,
    Glob.Pattern.parse (t.fullPattern root pattern) = .ok p ∧ source ∈ p.paths d)
    (fun sources pattern hpattern sources' hs h source hm => ?_) (by simp) h
  obtain ⟨p, hp, hadd⟩ := exists_of_bind_eq_ok h
  obtain rfl := Except.ok.inj hadd
  rcases mem_addSources hm with hm | hm
  · exact hs source hm
  · exact ⟨pattern, hpattern, p, hp, hm⟩

lemma exists_steps_of_mem_sources (hp : ∀ pattern ∈ t.patterns, (⟨pattern⟩ : Path).isAbsolute = false)
    (h : t.sources d root = .ok found) (hs : source ∈ found) :
    ((t.baseFrom root).steps ≠ [] → source.components = source.steps) ∧
      ∃ r : Path, r.isAbsolute = false ∧ r.steps ≠ [] ∧ source.steps = (t.baseFrom root).steps ++ r.steps ∧
        (.up ∈ r.steps → ∃ pattern ∈ t.patterns, Glob.climbs pattern = true) := by
  obtain ⟨pattern, hpattern, p, hparse, hq⟩ := exists_pattern_of_mem_sources h source hs
  obtain ⟨hdir, hc, r, hr, hsteps, hup⟩ := Glob.exists_steps_of_mem_paths (hp pattern hpattern) hparse hq
  refine ⟨hc, r, hr, fun hnil => ?_, hsteps, fun h => ⟨pattern, hpattern, hup h⟩⟩
  -- the source would be the base, which is a directory
  rw [hnil, List.append_nil] at hsteps
  obtain ⟨c, hfile⟩ := isFile_iff.mp (isFile_of_mem_sources h source hs)
  have hfound := (find_eq_ok_iff.mp hfile).2
  rw [place_eq_of_steps hsteps, hdir] at hfound
  cases hfound

end Target
end CommentBlocks
