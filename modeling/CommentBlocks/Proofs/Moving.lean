import CommentBlocks.Proofs.FirstFiles
import CommentBlocks.Proofs.Glob.Bases
import CommentBlocks.Proofs.Layout
import Mathlib.Data.List.Find

namespace CommentBlocks

namespace Disk

variable {d d' : Disk} {base base' : Path} {l l' k : Location}

def carry (l l' m : Location) : Location := if l <+: m then l' ++ m.drop l.length else m

/-- The directory `base` of a disk is moved to where nothing was before, and `base'` leads there. -/
structure Moves (d : Disk) (base base' : Path) (d' : Disk) : Prop where
  entries : d'.entries.map (fun e => (e.1.location, e.2)) =
    d.entries.map fun e => (carry (d.place base) (d.place base') e.1.location, e.2)
  working : d'.working = d.working
  unused : ∀ e ∈ d.entries, ¬ d.place base' <+: e.1.location
  isDirectory : d.isDirectory base = true
  isDirectory' : d'.isDirectory base' = true

lemma carry_eq_iff (h : ¬ l' <+: k) (m : Location) : carry l l' k = l' ++ m ↔ k = l ++ m := by
  rw [carry]
  split_ifs with hpre
  · obtain ⟨r, rfl⟩ := hpre
    rw [List.drop_left, List.append_right_inj, List.append_right_inj]
  · constructor
    · rintro rfl
      exact absurd (List.prefix_append l' m) h
    · rintro rfl
      exact absurd (List.prefix_append l m) hpre

lemma lookup?_eq_map (d : Disk) (l : Location) : d.lookup? l =
    if l = [] then some .directory
    else ((d.entries.map fun e => (e.1.location, e.2)).find? fun x => x.1 = l).map Prod.snd := by
  rw [lookup?, List.find?_map, Option.map_map]
  rfl

lemma lookup?_of_carried (hd : d'.entries.map (fun e => (e.1.location, e.2)) =
    d.entries.map fun e => (carry l l' e.1.location, e.2)) (hl : l ≠ []) (hl' : l' ≠ [])
    (h : ∀ e ∈ d.entries, ¬ l' <+: e.1.location) (m : Location) : d'.lookup? (l' ++ m) = d.lookup? (l ++ m) := by
  rw [lookup?_eq_map d', lookup?, if_neg (List.append_ne_nil_of_left_ne_nil hl' m),
    if_neg (List.append_ne_nil_of_left_ne_nil hl m), hd, List.find?_map, Option.map_map]
  refine congrArg (Option.map Prod.snd) (List.find?_congr fun e he => ?_)
  exact decide_eq_decide.mpr (carry_eq_iff (h e he) m)

lemma exists_place_of_ordinary (hb : base.Ordinary) : ∃ m ≠ [], ∀ d : Disk, d.place base = d.start base ++ m := by
  have hnames : ∀ c ∈ base.pieces.filterMap Path.Component.ofPiece?, ∃ n, c = .name n := by
    intro c hc
    refine (Path.up_or_name_of_mem hc).elim (fun hup => ?_) fun ⟨n, _, hn⟩ => ⟨n, hn⟩
    refine absurd ?_ hb.up_not_mem
    rw [hb.components_eq_steps, Path.steps_eq, ← hup]
    exact List.mem_append_right _ hc
  obtain ⟨m, hlength, hm⟩ := exists_foldl_step hnames
  refine ⟨m, fun hnil => ?_, fun d => ?_⟩
  · rw [hnil] at hlength
    exact Glob.filterMap_pieces_ne_nil hb (List.eq_nil_of_length_eq_zero hlength.symm)
  · rw [place, foldl_enter, hm]

namespace Moves

lemma place_eq (h : Moves d base base' d') (p : Path) : d'.place p = d.place p := by
  rw [place, place, start, start, h.working]

lemma alike (h : Moves d base base' d') (hb : base.Ordinary) (hb' : base'.Ordinary) :
    Glob.Alike d d' base base' where
  ordinary := hb
  ordinary' := hb'
  isDirectory := h.isDirectory
  isDirectory' := h.isDirectory'
  lookup? l := by
    obtain ⟨m, hm, hplace⟩ := exists_place_of_ordinary hb
    obtain ⟨m', hm', hplace'⟩ := exists_place_of_ordinary hb'
    rw [h.place_eq, lookup?_of_carried h.entries _ _ h.unused]
    · rw [hplace]
      exact List.append_ne_nil_of_right_ne_nil _ hm
    · rw [hplace']
      exact List.append_ne_nil_of_right_ne_nil _ hm'

end Moves
end Disk

namespace Glob

open Disk

variable {d d' : Disk} {base base' : Path} {pattern : Text} {p p' : Pattern}

lemma counterparts_paths (ha : Alike d d' base base') (hp : (⟨pattern⟩ : Path).isAbsolute = false)
    (h : Pattern.parse (Path.join ⟨escape base.text⟩ ⟨pattern⟩).text = .ok p)
    (h' : Pattern.parse (Path.join ⟨escape base'.text⟩ ⟨pattern⟩).text = .ok p') :
    List.Forall₂ (Counterparts d d' base base')
      ((p.paths d).filter Path.descends) ((p'.paths d').filter Path.descends) := by
  have hv : isValid pattern = true := by
    rw [← isValid_join_escape base, isValid, h]
    rfl
  obtain ⟨only, parts, hparts, hsearch⟩ := exists_search_of_isValid hp hv
  obtain ⟨_, hparse, start, hstart, hstartDir, hpaths⟩ := hsearch d base ha.ordinary ha.isDirectory
  obtain ⟨_, hparse', start', hstart', hstartDir', hpaths'⟩ := hsearch d' base' ha.ordinary' ha.isDirectory'
  obtain rfl := Except.ok.inj (hparse.symm.trans h)
  obtain rfl := Except.ok.inj (hparse'.symm.trans h')
  rw [hpaths, hpaths']
  refine findsAlike ha only parts hparts start start' ⟨⟨⟨[]⟩, rfl, by decide, ?_, ?_⟩, fun e => ?_⟩
  · rw [hstart]
    exact (List.append_nil _).symm
  · rw [hstart']
    exact (List.append_nil _).symm
  · rw [isDirectory_iff.mp hstartDir, isDirectory_iff.mp hstartDir']

end Glob

namespace Target

open Disk

variable {d d' : Disk} {t t' : Target} {root root' base base' source : Path}
  {sources sources' paths paths' : List Path} {patterns : List Text} {jobs : List Job} {job : Job}

lemma isValid_of_sources (h : t.sources d root = .ok sources) :
    ∀ pattern ∈ t.patterns, Glob.isValid pattern = true := by
  intro pattern hm
  obtain ⟨_, _, hfound⟩ := exists_of_foldlM h pattern hm
  obtain ⟨p, hp, -⟩ := exists_of_bind_eq_ok hfound
  rw [← Glob.isValid_join_escape (t.baseFrom root)]
  exact isOk_iff.mpr ⟨p, hp⟩

lemma filter_addSources {f : Path → Bool} (hf : ∀ p q : Path, p.same q = true → f p = f q) (d : Disk)
    (sources paths : List Path) :
    (addSources d sources paths).filter f = addSources d (sources.filter f) (paths.filter f) := by
  induction paths generalizing sources with
  | nil => rfl
  | cons p paths ih =>
    rw [addSources_cons, ih, List.filter_cons, addSource]
    cases hp : f p with
    | false =>
      rw [if_neg Bool.false_ne_true]
      split_ifs <;> simp [hp]
    | true =>
      have hany : (sources.filter f).any p.same = sources.any p.same := by
        rw [Bool.eq_iff_iff, List.any_eq_true, List.any_eq_true]
        refine exists_congr fun q => and_congr_left fun hs => ?_
        rw [List.mem_filter, ← hf p q hs, hp, and_iff_left rfl]
      rw [if_pos rfl, addSources_cons, addSource, hany]
      split_ifs <;> simp [hp]

lemma forall₂_addSources {R : Path → Path → Prop} (hfile : ∀ p p', R p p' → d.isFile p = d'.isFile p')
    (hsame : ∀ p p' q q', R p p' → R q q' → p.same q = p'.same q') (hsources : List.Forall₂ R sources sources')
    (hpaths : List.Forall₂ R paths paths') :
    List.Forall₂ R (addSources d sources paths) (addSources d' sources' paths') := by
  induction hpaths generalizing sources sources' with
  | nil => exact hsources
  | @cons p p' paths paths' hp _ ih =>
    have hany : sources.any p.same = sources'.any p'.same := by
      clear ih
      induction hsources with
      | nil => rfl
      | cons hq _ ih => rw [List.any_cons, List.any_cons, hsame p p' _ _ hp hq, ih]
    rw [addSources_cons, addSources_cons]
    refine ih ?_
    rw [addSource, addSource, hfile p p' hp, hany]
    split_ifs
    · exact hsources
    · exact List.rel_append hsources (.cons hp .nil)

lemma counterparts_matched (ha : Glob.Alike d d' (t.baseFrom root) (t'.baseFrom root'))
    (hp : ∀ pattern ∈ patterns, (⟨pattern⟩ : Path).isAbsolute = false ∧ Glob.isValid pattern = true) :
    List.Forall₂ (Glob.Counterparts d d' (t.baseFrom root) (t'.baseFrom root'))
      ((t.matched d root patterns).filter Path.descends)
      ((t'.matched d' root' patterns).filter Path.descends) := by
  rw [matched, matched, List.filter_flatMap, List.filter_flatMap]
  refine Glob.forall₂_flatMap fun pattern hm => ?_
  obtain ⟨hrel, hv⟩ := hp pattern hm
  obtain ⟨p, hparse⟩ := isOk_iff.mp ((Glob.isValid_join_escape (t.baseFrom root) pattern).trans hv)
  obtain ⟨p', hparse'⟩ := isOk_iff.mp ((Glob.isValid_join_escape (t'.baseFrom root') pattern).trans hv)
  rw [fullPattern, fullPattern, hparse, hparse']
  exact Glob.counterparts_paths ha hrel hparse hparse'

lemma same_eq_of_rebased {p p' q q' : Path} (hp : Path.Rebased base base' p p')
    (hq : Path.Rebased base base' q q') : p.same q = p'.same q' := by
  obtain ⟨r, -, -, hpr, hpr'⟩ := hp
  obtain ⟨s, -, -, hqs, hqs'⟩ := hq
  rw [Bool.eq_iff_iff, Path.same_iff, Path.same_iff, hpr, hpr', hqs, hqs', List.append_right_inj,
    List.append_right_inj]

lemma rebased_sources (ha : Glob.Alike d d' (t.baseFrom root) (t'.baseFrom root'))
    (hp : ∀ pattern ∈ patterns, (⟨pattern⟩ : Path).isAbsolute = false ∧ Glob.isValid pattern = true) :
    List.Forall₂ (Path.Rebased (t.baseFrom root) (t'.baseFrom root'))
      ((addSources d [] (t.matched d root patterns)).filter Path.descends)
      ((addSources d' [] (t'.matched d' root' patterns)).filter Path.descends) := by
  have hdescends : ∀ p q : Path, p.same q = true → p.descends = q.descends := fun p q h => by
    rw [Path.descends, Path.descends, Path.same_iff.mp h]
  -- what goes up is never taken for what does not, so it may as well be left out before the repetitions are
  rw [filter_addSources hdescends, filter_addSources hdescends]
  exact (forall₂_addSources (fun _ _ h => h.isFile)
    (fun _ _ _ _ h h' => same_eq_of_rebased h.rebased h'.rebased) .nil
    (counterparts_matched ha hp)).imp fun _ _ h => h.rebased

lemma exists_join_of_mem_expand (hb : (t.baseFrom root).Ordinary)
    (hp : ∀ pattern ∈ t.patterns, (⟨pattern⟩ : Path).isAbsolute = false) (h : t.expand d root = .ok jobs)
    (hj : job ∈ jobs) :
    ∃ r : Path, r.isAbsolute = false ∧ r.steps ≠ [] ∧ job.source.same ((t.baseFrom root).join r) = true ∧
      (.up ∈ r.steps → ∃ pattern ∈ t.patterns, Glob.climbs pattern = true) := by
  obtain ⟨found, hfound, hsource, -⟩ := exists_source_of_mem_expand h hj
  obtain ⟨hc, r, hr, hne, hsteps, hup⟩ := exists_steps_of_mem_sources hp hfound hsource
  refine ⟨r, hr, hne, Path.same_iff.mpr ?_, hup⟩
  rw [hc hb.steps_ne_nil, hsteps, Path.components_join (Path.text_ne_nil_of_steps hb.steps_ne_nil) hr,
    hb.components_eq_steps]

lemma descends_of_mem_expand (hb : (t.baseFrom root).Ordinary)
    (hp : ∀ pattern ∈ t.patterns, (⟨pattern⟩ : Path).isAbsolute = false ∧ Glob.climbs pattern = false)
    (h : t.expand d root = .ok jobs) : ∀ source ∈ jobs.map Job.source, source.descends = true := by
  refine List.forall_mem_map.mpr fun job hj => Path.descends_iff.mpr fun hm => ?_
  obtain ⟨r, hr, -, hsame, hup⟩ := exists_join_of_mem_expand hb (fun pattern hm => (hp pattern hm).1) h hj
  rw [Path.same_iff.mp hsame, Path.components_join (Path.text_ne_nil_of_steps hb.steps_ne_nil) hr] at hm
  obtain ⟨pattern, hpattern, hclimbs⟩ := hup ((List.mem_append.mp hm).resolve_left hb.up_not_mem)
  rw [(hp pattern hpattern).2] at hclimbs
  cases hclimbs

/-- Every source of relative patterns is seen from the base, and lies below it unless a pattern climbs. Where
the base is moved, the sources below it move with it and keep their order, whatever characters the base is
spelled with. -/
theorem expand_move (hb : (t.baseFrom root).Ordinary)
    (hp : ∀ pattern ∈ t.patterns, (⟨pattern⟩ : Path).isAbsolute = false) (h : t.expand d root = .ok jobs) :
    (∀ job ∈ jobs, ∃ r : Path,
      r.isAbsolute = false ∧ r.steps ≠ [] ∧ job.source.same ((t.baseFrom root).join r) = true ∧
      (.up ∈ r.steps → ∃ pattern ∈ t.patterns, Glob.climbs pattern = true)) ∧
    ∀ (d' : Disk) (t' : Target) (root' : Path), (t'.baseFrom root').Ordinary → t'.patterns = t.patterns →
      d.Moves (t.baseFrom root) (t'.baseFrom root') d' → ∃ jobs', t'.expand d' root' = .ok jobs' ∧
        List.Forall₂ (Path.Rebased (t.baseFrom root) (t'.baseFrom root'))
          ((jobs.map Job.source).filter Path.descends)
          ((jobs'.map Job.source).filter Path.descends) ∧
        ((∀ pattern ∈ t.patterns, Glob.climbs pattern = false) →
          List.Forall₂ (Path.Rebased (t.baseFrom root) (t'.baseFrom root')) (jobs.map Job.source)
            (jobs'.map Job.source)) := by
  refine ⟨fun job hj => exists_join_of_mem_expand hb hp h hj, fun d' t' root' hb' hpatterns hmoves => ?_⟩
  obtain ⟨found, hfound, -⟩ := exists_of_bind_eq_ok h
  have hv := isValid_of_sources hfound
  have hjobs := (expand_withPatterns t d root hv).symm.trans h
  have hsame : ({ t' with patterns := t.patterns } : Target) = t' := by rw [← hpatterns]
  have hexpand := expand_withPatterns t' d' root' hv
  rw [hsame] at hexpand
  have hsources := rebased_sources (hmoves.alike hb hb') fun pattern hm => ⟨hp pattern hm, hv pattern hm⟩
  have hmap : ∀ (ps : List Path) (destination : Path → Path),
      (ps.map fun p => (⟨p, destination p⟩ : Job)).map Job.source = ps := by simp [Function.comp_def]
  refine ⟨_, hexpand, ?_, fun hclimbs => ?_⟩
  · rw [← Except.ok.inj hjobs, hmap, hmap]
    exact hsources
  · have hstay : ∀ pattern ∈ t.patterns, (⟨pattern⟩ : Path).isAbsolute = false ∧ Glob.climbs pattern = false :=
      fun pattern hm => ⟨hp pattern hm, hclimbs pattern hm⟩
    have hall := descends_of_mem_expand hb hstay h
    have hall' := descends_of_mem_expand hb' (hpatterns.symm ▸ hstay) hexpand
    rw [← Except.ok.inj hjobs] at hall ⊢
    rw [hmap] at hall hall' ⊢
    rw [hmap]
    rwa [List.filter_eq_self.mpr hall, List.filter_eq_self.mpr hall'] at hsources

def sites : Disk := .ofEntries []
  [(["v[2]".toList], .directory), (["v[2]".toList, "a".toList], .file (.text [])),
   (["v[2]".toList, "b".toList], .directory), (["v[2]".toList, "b".toList, "a".toList], .file (.text [])),
   (["v2".toList], .directory), (["v2".toList, "a".toList], .file (.text [])), (["c".toList], .file (.text []))]

def movedSites : Disk := .ofEntries []
  [(["**".toList], .directory), (["**".toList, "a".toList], .file (.text [])),
   (["**".toList, "b".toList], .directory), (["**".toList, "b".toList, "a".toList], .file (.text [])),
   (["v2".toList], .directory), (["v2".toList, "a".toList], .file (.text [])), (["c".toList], .file (.text []))]

def siteFiles (base : Path) (pattern : Text) : Target := ⟨some base, [pattern], none, {}⟩

theorem expand_move_brackets :
    (siteFiles ⟨"v[2]".toList⟩ "**/a".toList).expand sites ⟨[]⟩ =
        .ok [.inPlace ⟨"v[2]/a".toList⟩, .inPlace ⟨"v[2]/b/a".toList⟩] ∧
      ∃ jobs, (siteFiles ⟨"**".toList⟩ "**/a".toList).expand movedSites ⟨[]⟩ = .ok jobs ∧
        List.Forall₂ (Path.Rebased ⟨"v[2]".toList⟩ ⟨"**".toList⟩) [⟨"v[2]/a".toList⟩, ⟨"v[2]/b/a".toList⟩]
          (jobs.map Job.source) := by
  have hjobs : (siteFiles ⟨"v[2]".toList⟩ "**/a".toList).expand sites ⟨[]⟩ =
      .ok [.inPlace ⟨"v[2]/a".toList⟩, .inPlace ⟨"v[2]/b/a".toList⟩] := rfl
  obtain ⟨-, hmove⟩ := expand_move (by decide) (by decide) hjobs
  obtain ⟨jobs, hexpand, -, hsources⟩ :=
    hmove movedSites (siteFiles ⟨"**".toList⟩ "**/a".toList) ⟨[]⟩ (by decide) rfl
    ⟨by decide, rfl, by decide, by decide, by decide⟩
  exact ⟨hjobs, jobs, hexpand, hsources (by decide)⟩

theorem not_expand_move_dots : ¬ "..".toList <:+: ".*/c".toList ∧
    ∃ job, (siteFiles ⟨"v[2]".toList⟩ ".*/c".toList).expand sites ⟨[]⟩ = .ok [job] ∧
      ¬ sites.Below ⟨"v[2]".toList⟩ job.source := by
  exact ⟨by decide +kernel, .inPlace ⟨"v[2]/../c".toList⟩, rfl, by decide⟩

end Target

end CommentBlocks
