import CommentBlocks.Proofs.Glob.Validity

namespace CommentBlocks

lemma Path.same_comm (p q : Path) : p.same q = q.same p := by
  rw [Bool.eq_iff_iff, same_iff, same_iff, eq_comm]

namespace Target

open Disk

variable {d : Disk} {t : Target} {root p q : Path} {sources paths : List Path} {patterns : List Text}
  {pattern : Text}

def matched (t : Target) (d : Disk) (root : Path) (patterns : List Text) : List Path :=
  patterns.flatMap fun pattern =>
    match Glob.Pattern.parse (t.fullPattern root pattern) with
    | .ok p => p.paths d
    | .error _ => []

structure FirstFiles (d : Disk) (paths : List Path) (jobs : List Job) : Prop where
  sources : jobs.map Job.source = (paths.filter d.isFile).eraseDupsBy Path.same
  files : ∀ job ∈ jobs, job.source ∈ paths ∧ d.isFile job.source = true ∧ d.isDirectory job.source = false
  distinct : jobs.Pairwise fun i j => i.source.same j.source = false
  complete : ∀ p ∈ paths, d.isFile p = true → ∃ job ∈ jobs, job.source.same p = true

def Covered (d : Disk) (sources paths : List Path) : Prop :=
  ∀ p ∈ paths, d.isFile p = true → ∃ q ∈ sources, q.same p = true

instance (d : Disk) (sources paths : List Path) : Decidable (Covered d sources paths) :=
  inferInstanceAs (Decidable (∀ p ∈ paths, _))

def addSource (d : Disk) (sources : List Path) (p : Path) : List Path :=
  if !d.isFile p || sources.any p.same then sources else sources ++ [p]

lemma addSources_cons (d : Disk) (sources : List Path) (p : Path) (paths : List Path) :
    addSources d sources (p :: paths) = addSources d (addSource d sources p) paths := rfl

lemma addSources_append (d : Disk) (sources ps qs : List Path) :
    addSources d sources (ps ++ qs) = addSources d (addSources d sources ps) qs := List.foldl_append

lemma addSource_cases (d : Disk) (sources : List Path) (p : Path) :
    addSource d sources p = sources ∧ (d.isFile p = true → ∃ q ∈ sources, q.same p = true) ∨
      addSource d sources p = sources ++ [p] ∧ d.isFile p = true ∧ ∀ q ∈ sources, q.same p = false := by
  rw [addSource]
  split_ifs with h
  · simp only [Bool.or_eq_true, Bool.not_eq_true', List.any_eq_true] at h
    refine Or.inl ⟨rfl, fun hp => ?_⟩
    obtain ⟨q, hq, hs⟩ := h.resolve_left (by simp [hp])
    exact ⟨q, hq, Path.same_comm p q ▸ hs⟩
  · simp only [Bool.or_eq_true, not_or, Bool.not_eq_true', Bool.not_eq_false, List.any_eq_true, not_exists,
      not_and, Bool.not_eq_true] at h
    exact Or.inr ⟨rfl, h.1, fun q hq => Path.same_comm p q ▸ h.2 q hq⟩

lemma addSources_eq (d : Disk) (sources paths : List Path) :
    addSources d sources paths =
      sources ++ (paths.filter fun p => d.isFile p && !sources.any p.same).eraseDupsBy Path.same := by
  induction paths generalizing sources with
  | nil => exact (List.append_nil sources).symm
  | cons p paths ih =>
    rw [addSources_cons, ih]
    rcases addSource_cases d sources p with ⟨hadd, hseen⟩ | ⟨hadd, hp, hnew⟩
    · have hskip : (d.isFile p && !sources.any p.same) = false := by
        cases hp : d.isFile p with
        | false => rfl
        | true =>
          obtain ⟨q, hq, hs⟩ := hseen hp
          have hany : sources.any p.same = true := List.any_eq_true.mpr ⟨q, hq, Path.same_comm q p ▸ hs⟩
          rw [hany]
          rfl
      rw [hadd, List.filter_cons, hskip]
      rfl
    · have hany : sources.any p.same = false :=
        List.any_eq_false.mpr fun q hq => by rw [Path.same_comm, hnew q hq]; exact Bool.false_ne_true
      have hfilter : (paths.filter fun q => d.isFile q && !(sources ++ [p]).any q.same) =
          (paths.filter fun q => d.isFile q && !sources.any q.same).filter fun q => decide (q.same p = false) := by
        rw [List.filter_filter]
        refine List.filter_congr fun q _ => ?_
        cases hq : q.same p <;> simp [hq]
      rw [hadd, hfilter, List.filter_cons, hp, hany]
      simp [List.eraseDupsBy_cons]

lemma pairwise_addSources (h : sources.Pairwise fun p q => p.same q = false) (paths : List Path) :
    (addSources d sources paths).Pairwise fun p q => p.same q = false := by
  induction paths generalizing sources with
  | nil => exact h
  | cons p paths ih =>
    rw [addSources_cons]
    rcases addSource_cases d sources p with ⟨hadd, -⟩ | ⟨hadd, -, hnew⟩
    · rw [hadd]
      exact ih h
    · rw [hadd]
      refine ih (List.pairwise_append.mpr ⟨h, List.pairwise_singleton _ _, fun q hq x hx => ?_⟩)
      rw [List.mem_singleton.mp hx]
      exact hnew q hq

lemma prefix_addSources (d : Disk) (sources paths : List Path) : sources <+: addSources d sources paths :=
  ⟨_, (addSources_eq d sources paths).symm⟩

lemma covered_addSources (d : Disk) (sources paths : List Path) :
    Covered d (addSources d sources paths) paths := by
  induction paths generalizing sources with
  | nil => exact fun p hp => absurd hp List.not_mem_nil
  | cons p paths ih =>
    rw [addSources_cons]
    refine fun x hx hfile => ?_
    rcases List.mem_cons.mp hx with rfl | hx
    · have hsub := (prefix_addSources d (addSource d sources x) paths).subset
      rcases addSource_cases d sources x with ⟨hadd, hseen⟩ | ⟨hadd, -, -⟩
      · obtain ⟨q, hq, hs⟩ := hseen hfile
        rw [← hadd] at hq
        exact ⟨q, hsub hq, hs⟩
      · have hx : x ∈ addSource d sources x := by simp [hadd]
        exact ⟨x, hsub hx, Path.same_refl x⟩
    · exact ih _ x hx hfile

lemma addSources_eq_self_iff : addSources d sources paths = sources ↔ Covered d sources paths := by
  constructor
  · intro h
    exact h ▸ covered_addSources d sources paths
  · intro h
    have hnone : (paths.filter fun p => d.isFile p && !sources.any p.same) = [] := by
      refine List.filter_eq_nil_iff.mpr fun p hp => ?_
      cases hfile : d.isFile p with
      | false => simp
      | true =>
        obtain ⟨q, hq, hs⟩ := h p hp hfile
        have hany : sources.any p.same = true := List.any_eq_true.mpr ⟨q, hq, Path.same_comm q p ▸ hs⟩
        simp [hany]
    rw [addSources_eq, hnone, List.eraseDupsBy_nil, List.append_nil]

lemma foldlM_addSources (t : Target) (d : Disk) (root : Path) (sources : List Path)
    (h : ∀ pattern ∈ patterns, Glob.isValid pattern = true) :
    patterns.foldlM (fun sources pattern => do
        return addSources d sources ((← Glob.Pattern.parse (t.fullPattern root pattern)).paths d)) sources =
      .ok (addSources d sources (t.matched d root patterns)) := by
  induction patterns generalizing sources with
  | nil => rfl
  | cons pattern patterns ih =>
    obtain ⟨hpattern, hpatterns⟩ := List.forall_mem_cons.mp h
    rw [← Glob.isValid_join_escape (t.baseFrom root)] at hpattern
    obtain ⟨p, hp⟩ := isOk_iff.mp hpattern
    have hparse : Glob.Pattern.parse (t.fullPattern root pattern) = .ok p := hp
    rw [List.foldlM_cons, matched, List.flatMap_cons, addSources_append, ← matched, hparse, ← ih _ hpatterns]
    rfl

lemma matched_append (t : Target) (d : Disk) (root : Path) (ps qs : List Text) :
    t.matched d root (ps ++ qs) = t.matched d root ps ++ t.matched d root qs := List.flatMap_append

lemma expand_withPatterns (t : Target) (d : Disk) (root : Path)
    (h : ∀ pattern ∈ patterns, Glob.isValid pattern = true) :
    ({ t with patterns := patterns } : Target).expand d root =
      .ok ((addSources d [] (t.matched d root patterns)).map fun p => ⟨p, t.destinationOf root p⟩) := by
  have hsources : ({ t with patterns := patterns } : Target).sources d root =
      .ok (addSources d [] (t.matched d root patterns)) := foldlM_addSources t d root [] h
  rw [expand, hsources]
  rfl

lemma Covered.trans {qs : List Path} (h : Covered d sources qs) (h' : Covered d (qs.filter d.isFile) paths) :
    Covered d sources paths := by
  intro p hp hfile
  obtain ⟨q, hq, hs⟩ := h' p hp hfile
  obtain ⟨hmem, hqfile⟩ := List.mem_filter.mp hq
  obtain ⟨x, hx, hxs⟩ := h q hmem hqfile
  exact ⟨x, hx, Path.same_iff.mpr ((Path.same_iff.mp hxs).trans (Path.same_iff.mp hs))⟩

lemma firstFiles_map (d : Disk) (paths : List Path) (destination : Path → Path) :
    FirstFiles d paths ((addSources d [] paths).map fun p => ⟨p, destination p⟩) where
  sources := by
    rw [List.map_map, addSources_eq]
    simp [Function.comp_def]
  files := by
    refine List.forall_mem_map.mpr fun p hp => ?_
    have hfile := @isFile_addSources d [] (by simp) paths p hp
    obtain ⟨c, hc⟩ := isFile_iff.mp hfile
    exact ⟨(mem_addSources hp).resolve_left List.not_mem_nil, hfile, by rw [isDirectory, hc]⟩
  distinct := List.pairwise_map.mpr (pairwise_addSources .nil paths)
  complete p hp hfile := by
    obtain ⟨q, hq, hs⟩ := covered_addSources d [] paths p hp hfile
    exact ⟨_, List.mem_map_of_mem hq, hs⟩

/-- A target has the files that its patterns stand for, each once and at its first place. Further patterns put
their jobs after those that are there, none where all their files are covered, and patterns whose files are
covered by patterns before them may as well be left out. -/
theorem expand_ordered_union (h : ∀ pattern ∈ t.patterns, Glob.isValid pattern = true) (d : Disk) (root : Path) :
    ∃ jobs, t.expand d root = .ok jobs ∧ FirstFiles d (t.matched d root t.patterns) jobs ∧
      (∀ more : List Text, (∀ pattern ∈ more, Glob.isValid pattern = true) → ∃ later,
        ({ t with patterns := t.patterns ++ more } : Target).expand d root = .ok (jobs ++ later) ∧
          (later = [] ↔ Covered d (jobs.map Job.source) (t.matched d root more))) ∧
      ∀ before more after : List Text, t.patterns = before ++ (more ++ after) →
        Covered d ((t.matched d root before).filter d.isFile) (t.matched d root more) →
        ({ t with patterns := before ++ after } : Target).expand d root = .ok jobs := by
  refine ⟨_, expand_withPatterns t d root h, firstFiles_map d _ _, fun more hmore => ?_,
    fun before more after hsplit hcovered => ?_⟩
  · obtain ⟨later, hlater⟩ :=
      prefix_addSources d (addSources d [] (t.matched d root t.patterns)) (t.matched d root more)
    refine ⟨later.map fun p => ⟨p, t.destinationOf root p⟩, ?_, ?_⟩
    · rw [expand_withPatterns t d root (List.forall_mem_append.mpr ⟨h, hmore⟩), matched_append, addSources_append,
        ← hlater, List.map_append]
    · rw [List.map_map, Function.comp_def, List.map_id', ← addSources_eq_self_iff, ← hlater]
      simp
  · rw [hsplit] at h ⊢
    obtain ⟨hbefore, hrest⟩ := List.forall_mem_append.mp h
    have hvalid := List.forall_mem_append.mpr ⟨hbefore, (List.forall_mem_append.mp hrest).2⟩
    have hmore : addSources d (addSources d [] (t.matched d root before)) (t.matched d root more) =
        addSources d [] (t.matched d root before) :=
      addSources_eq_self_iff.mpr ((covered_addSources d [] _).trans hcovered)
    rw [expand_withPatterns t d root hvalid]
    simp only [matched_append, addSources_append, hmore]

def nestedDisk : Disk := .ofEntries []
  [(["src".toList], .directory), (["src".toList, "a".toList], .file (.text [])),
   (["src".toList, "b".toList], .directory), (["src".toList, "b".toList, "c".toList], .file (.text []))]

def everywhere : Target := ⟨some ⟨"src".toList⟩, ["**/*".toList, "*".toList, "./a".toList], none, {}⟩

theorem expand_ordered_union_overlapping :
    everywhere.expand nestedDisk ⟨[]⟩ = .ok [.inPlace ⟨"src/a".toList⟩, .inPlace ⟨"src/b/c".toList⟩] ∧
      (everywhere.matched nestedDisk ⟨[]⟩ everywhere.patterns).map Path.text =
        ["src/a".toList, "src/b".toList, "src/b/c".toList, "src/a".toList, "src/b".toList, "src/./a".toList] ∧
      ({ everywhere with patterns := ["**/*".toList] } : Target).expand nestedDisk ⟨[]⟩ =
        .ok [.inPlace ⟨"src/a".toList⟩, .inPlace ⟨"src/b/c".toList⟩] := by
  have hjobs : everywhere.expand nestedDisk ⟨[]⟩ =
      .ok [.inPlace ⟨"src/a".toList⟩, .inPlace ⟨"src/b/c".toList⟩] := rfl
  obtain ⟨jobs, hexpand, -, -, hless⟩ := expand_ordered_union (t := everywhere) (by decide) nestedDisk ⟨[]⟩
  obtain rfl := Except.ok.inj (hexpand.symm.trans hjobs)
  exact ⟨hjobs, by decide, hless ["**/*".toList] ["*".toList, "./a".toList] [] rfl (by decide)⟩

end Target
end CommentBlocks
