import CommentBlocks.Proofs.Sources

/-! A destination keeps the layout of the base. The one exception is a base spelled from the current
directory, as `./src`: a search leaves its `.` out, so nothing it finds starts with the base, and the
destination keeps all of the source. -/

namespace CommentBlocks

namespace Path

variable {p : Path}

/-- A directory spelled from the current one, as in `./src`. -/
def StartsHere (p : Path) : Prop := p.pieces.head? = some ['.'] ∧ p.steps ≠ []

instance (p : Path) : Decidable p.StartsHere := inferInstanceAs (Decidable (_ ∧ _))

lemma StartsHere.isAbsolute (h : p.StartsHere) : p.isAbsolute = false := by
  refine Bool.eq_false_iff.mpr fun ha => ?_
  have hhead := head?_pieces_of_isAbsolute ha
  rw [h.1] at hhead
  cases hhead

end Path

namespace Target

open Disk

variable {d : Disk} {t : Target} {root dest source r base : Path} {jobs : List Job} {job : Job}

def keptPart (base source : Path) : Path := (source.stripPrefix? base).getD source

lemma destinationOf_eq (h : t.destination = some dest) (root source : Path) :
    t.destinationOf root source = (root.join dest).join (keptPart (t.baseFrom root) source) := by
  rw [destinationOf, h]
  rfl

lemma exists_source_of_mem_expand (h : t.expand d root = .ok jobs) (hj : job ∈ jobs) :
    ∃ found, t.sources d root = .ok found ∧ job.source ∈ found ∧
      job.destination = t.destinationOf root job.source := by
  obtain ⟨found, hfound, hjobs⟩ := exists_of_bind_eq_ok h
  obtain rfl := Except.ok.inj hjobs
  obtain ⟨p, hp, rfl⟩ := List.mem_map.mp hj
  exact ⟨found, hfound, hp, rfl⟩

lemma keptPart_of_startsHere (hb : base.StartsHere) (hc : source.components = source.steps) :
    keptPart base source = source := by
  have hnone : source.stripPrefix? base = none := by
    refine Path.stripPrefix?_eq_none_iff.mpr fun hpre => Path.here_not_mem_steps source (hc ▸ hpre.subset ?_)
    rw [Path.components_eq, if_pos hb.1]
    exact List.mem_cons_self
  rw [keptPart, hnone, Option.getD_none]

lemma steps_keptPart (hb : ¬ base.StartsHere) (hc : base.steps ≠ [] → source.components = source.steps)
    (hsteps : source.steps = base.steps ++ r.steps) : (keptPart base source).steps = r.steps := by
  rw [keptPart]
  cases hs : source.stripPrefix? base with
  | some q => exact List.append_cancel_left ((Path.steps_of_stripPrefix? hs).symm.trans hsteps)
  | none =>
    by_cases hne : base.steps = []
    · rwa [hne, List.nil_append] at hsteps
    · refine absurd ?_ (Path.stripPrefix?_eq_none_iff.mp hs)
      rw [Path.components_eq base, if_neg fun hhead => hb ⟨hhead, hne⟩, hc hne, hsteps]
      exact List.prefix_append _ _

/-- Every source of relative patterns lies below the base, and its destination lies at the same place below
the directory of destinations, unless the base is spelled from the current directory. -/
theorem expand_keeps_layout (hp : ∀ pattern ∈ t.patterns, (⟨pattern⟩ : Path).isAbsolute = false)
    (hdest : t.destination = some dest) (h : t.expand d root = .ok jobs) :
    ∀ job ∈ jobs, d.isFile job.source = true ∧ ∃ r : Path, r.isAbsolute = false ∧
      job.source.steps = ((t.baseFrom root).join r).steps ∧
      (job.destination.steps = ((root.join dest).join r).steps ↔ ¬ (t.baseFrom root).StartsHere) := by
  intro job hj
  obtain ⟨found, hfound, hsource, hdestination⟩ := exists_source_of_mem_expand h hj
  obtain ⟨hc, r, hr, -, hsteps, -⟩ := exists_steps_of_mem_sources hp hfound hsource
  refine ⟨isFile_of_mem_expand h hj, r, hr, hsteps.trans (Path.steps_join _ hr).symm, ?_⟩
  rw [hdestination, destinationOf_eq hdest, Path.steps_join _ hr]
  by_cases hb : (t.baseFrom root).StartsHere
  · -- the whole source is kept, so the steps of the base come twice
    have hrel : job.source.isAbsolute = false := by
      rw [Path.isAbsolute_eq_of_steps (hsteps.trans (Path.steps_join _ hr).symm), Path.isAbsolute_join _ hr,
        hb.isAbsolute]
    rw [keptPart_of_startsHere hb (hc hb.2), Path.steps_join _ hrel, hsteps]
    simp [hb, hb.2]
  · have hkept := steps_keptPart hb hc hsteps
    have hrel := (Path.isAbsolute_eq_of_steps hkept).trans hr
    rw [Path.steps_join _ hrel, hkept]
    simp [hb]

def pageDisk : Disk := .ofEntries []
  [(["src".toList], .directory), (["src".toList, "a".toList], .file (.text "x".toList))]

def pagesOf (base : Path) : Target := ⟨some base, ["*".toList], some ⟨"dist".toList⟩, {}⟩

theorem expand_keeps_layout_src :
    (pagesOf ⟨"src".toList⟩).expand pageDisk ⟨[]⟩ = .ok [⟨⟨"src/a".toList⟩, ⟨"dist/a".toList⟩⟩] ∧
      ∃ r : Path, r.isAbsolute = false ∧
        (⟨"src/a".toList⟩ : Path).steps = ((⟨"src".toList⟩ : Path).join r).steps ∧
        (⟨"dist/a".toList⟩ : Path).steps = ((⟨"dist".toList⟩ : Path).join r).steps := by
  have hjobs : (pagesOf ⟨"src".toList⟩).expand pageDisk ⟨[]⟩ =
      .ok [⟨⟨"src/a".toList⟩, ⟨"dist/a".toList⟩⟩] := rfl
  obtain ⟨-, r, hr, hsource, hdest⟩ :=
    expand_keeps_layout (by decide) rfl hjobs _ (List.mem_singleton_self _)
  exact ⟨hjobs, r, hr, hsource, hdest.mpr (by decide)⟩

theorem not_expand_keeps_layout_here : ∃ jobs, (pagesOf ⟨"./src".toList⟩).expand pageDisk ⟨[]⟩ = .ok jobs ∧
    ∃ job ∈ jobs, ¬ ∃ r : Path,
      r.isAbsolute = false ∧ job.source.steps = ((⟨"./src".toList⟩ : Path).join r).steps ∧
      job.destination.steps = ((⟨"dist".toList⟩ : Path).join r).steps := by
  refine ⟨[⟨⟨"src/a".toList⟩, ⟨"dist/src/a".toList⟩⟩], rfl, _, List.mem_singleton_self _, ?_⟩
  rintro ⟨r, hr, hsource, hdest⟩
  rw [Path.steps_join _ hr] at hsource hdest
  have hbase : (⟨"./src".toList⟩ : Path).steps ++ [.name "a".toList] = (⟨"src/a".toList⟩ : Path).steps := by decide
  obtain hr : [.name "a".toList] = r.steps := List.append_cancel_left (hbase.trans hsource)
  rw [← hr] at hdest
  exact absurd hdest (by decide)

end Target
end CommentBlocks
