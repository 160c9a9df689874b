import CommentBlocks.Proofs.Layout

namespace CommentBlocks

namespace Path

variable {p : Path} {l : Location}

def StaysBelow (p : Path) (l : Location) : Prop :=
  p.route.left l <+: p.route.names ∧ p.route.names ≠ p.route.left l

instance (p : Path) (l : Location) : Decidable (p.StaysBelow l) := inferInstanceAs (Decidable (_ ∧ _))

lemma staysBelow_of_ups_eq_zero (hups : p.route.ups = 0) (hnames : 0 < p.route.names.length) (l : Location) :
    p.StaysBelow l := by
  have hleft : p.route.left l = [] := by rw [Route.left, hups, Nat.sub_zero, List.drop_length]
  rw [StaysBelow, hleft]
  exact ⟨List.nil_prefix, List.ne_nil_of_length_pos hnames⟩

end Path

namespace Target

open Disk

variable {d : Disk} {t : Target} {root dest source r base : Path} {jobs : List Job} {job : Job}

lemma place_keptPart_of_isAbsolute (h : (keptPart base source).isAbsolute = true) (d : Disk) :
    d.place (keptPart base source) = d.place source := by
  rw [keptPart] at h ⊢
  cases hs : source.stripPrefix? base with
  | none => rfl
  | some q =>
    rw [hs, Option.getD_some] at h
    refine place_eq_of_steps ?_ d
    by_cases hb : base.components = []
    · have hbase : base.steps = [] := by rw [Path.steps, hb, List.filter_nil]
      rw [Option.getD_some, Path.steps_of_stripPrefix? hs, hbase, List.nil_append]
    · rw [(Path.components_of_stripPrefix? hs hb).1] at h
      cases h

lemma staysBelow_keptPart (hr : r.isAbsolute = false) (hne : r.steps ≠ []) (hup : .up ∉ r.steps)
    (hc : base.steps ≠ [] → source.components = source.steps) (hsteps : source.steps = base.steps ++ r.steps)
    (hbase : base.StartsHere → base.route.ups = 0) (l : Location) :
    (keptPart base source).isAbsolute = false ∧ (keptPart base source).StaysBelow l := by
  have hnames := Path.exists_name_of_mem_steps hr hup
  have hpos := List.length_pos_of_ne_nil hne
  -- the route of what is kept goes along names only, after that of the base where all of the source is kept
  by_cases hb : base.StartsHere
  · have hroute : source.route = r.steps.foldl Route.extend base.route := by
      rw [Path.route, hsteps, List.foldl_append, ← Path.route]
    obtain ⟨hups, hlength⟩ := Route.foldl_extend_of_names hnames base.route
    rw [keptPart_of_startsHere hb (hc hb.2)]
    refine ⟨?_, Path.staysBelow_of_ups_eq_zero ?_ ?_ l⟩
    · rw [Path.isAbsolute_eq_of_steps (hsteps.trans (Path.steps_join _ hr).symm), Path.isAbsolute_join _ hr,
        hb.isAbsolute]
    · rw [hroute, hups, hbase hb]
    · rw [hroute, hlength]
      omega
  · have hkept := steps_keptPart hb hc hsteps
    obtain ⟨hups, hlength⟩ := Route.foldl_extend_of_names hnames {}
    refine ⟨(Path.isAbsolute_eq_of_steps hkept).trans hr, Path.staysBelow_of_ups_eq_zero ?_ ?_ l⟩
    · rw [Path.route, hkept, hups]
    · rw [Path.route, hkept, hlength]
      omega

lemma below_destination_iff (hdest : t.destination = some dest) (h : t.expand d root = .ok jobs)
    (hj : job ∈ jobs) :
    d.Below (root.join dest) job.destination ↔
      if (keptPart (t.baseFrom root) job.source).isAbsolute then d.Below (root.join dest) job.source
      else (keptPart (t.baseFrom root) job.source).StaysBelow (d.place (root.join dest)) := by
  obtain ⟨found, -, -, hdestination⟩ := exists_source_of_mem_expand h hj
  rw [hdestination, destinationOf_eq hdest]
  split_ifs with ha
  · rw [Path.join_of_isAbsolute ha, Below, Below, place_keptPart_of_isAbsolute ha]
  · exact below_join_iff d _ (Bool.eq_false_iff.mpr ha)

/-- Where the jobs of a target with a destination write. It is below the destination iff what is kept of the
source stays there. It always does with relative patterns that do not climb, and a base that does not climb
either where it is spelled from the current directory. -/
theorem expand_confined (hdest : t.destination = some dest) (h : t.expand d root = .ok jobs) :
    (∀ job ∈ jobs, d.Below (root.join dest) job.destination ↔
      if (keptPart (t.baseFrom root) job.source).isAbsolute then d.Below (root.join dest) job.source
      else (keptPart (t.baseFrom root) job.source).StaysBelow (d.place (root.join dest))) ∧
    ((∀ pattern ∈ t.patterns, (⟨pattern⟩ : Path).isAbsolute = false ∧ Glob.climbs pattern = false) →
      ((t.baseFrom root).StartsHere → (t.baseFrom root).route.ups = 0) →
      ∀ job ∈ jobs, d.Below (root.join dest) job.destination) := by
  refine ⟨fun job hj => below_destination_iff hdest h hj, fun hp hbase job hj => ?_⟩
  obtain ⟨found, hfound, hsource, -⟩ := exists_source_of_mem_expand h hj
  obtain ⟨hc, r, hr, hne, hsteps, hup⟩ :=
    exists_steps_of_mem_sources (fun pattern hm => (hp pattern hm).1) hfound hsource
  have hstay : .up ∉ r.steps := by
    intro hm
    obtain ⟨pattern, hpattern, hclimbs⟩ := hup hm
    rw [(hp pattern hpattern).2] at hclimbs
    cases hclimbs
  obtain ⟨ha, hkept⟩ := staysBelow_keptPart hr hne hstay hc hsteps hbase (d.place (root.join dest))
  rw [below_destination_iff hdest h hj, ha]
  exact hkept

theorem expand_confined_src :
    (pagesOf ⟨"src".toList⟩).expand pageDisk ⟨[]⟩ = .ok [⟨⟨"src/a".toList⟩, ⟨"dist/a".toList⟩⟩] ∧
      pageDisk.Below ⟨"dist".toList⟩ ⟨"dist/a".toList⟩ ∧ (⟨"a".toList⟩ : Path).StaysBelow ["dist".toList] := by
  have hjobs : (pagesOf ⟨"src".toList⟩).expand pageDisk ⟨[]⟩ =
      .ok [⟨⟨"src/a".toList⟩, ⟨"dist/a".toList⟩⟩] := rfl
  obtain ⟨hiff, hall⟩ := expand_confined rfl hjobs
  have hbelow := hall (by decide) (by decide) _ (List.mem_singleton_self _)
  exact ⟨hjobs, hbelow, (hiff _ (List.mem_singleton_self _)).mp hbelow⟩

def outsideDisk : Disk := .ofEntries []
  [(["src".toList], .directory), (["c".toList], .file (.text "x".toList))]

def fromSrc (pattern : Text) : Target := ⟨some ⟨"src".toList⟩, [pattern], some ⟨"dist".toList⟩, {}⟩

theorem not_expand_confined_outside :
    (∃ job, (fromSrc "/c".toList).expand outsideDisk ⟨[]⟩ = .ok [job] ∧
      ¬ outsideDisk.Below ⟨"dist".toList⟩ job.destination) ∧
    ∃ job, (fromSrc "../c".toList).expand outsideDisk ⟨[]⟩ = .ok [job] ∧
      ¬ outsideDisk.Below ⟨"dist".toList⟩ job.destination := by
  constructor
  · exact ⟨⟨⟨"/c".toList⟩, ⟨"/c".toList⟩⟩, rfl, by decide⟩
  · exact ⟨⟨⟨"src/../c".toList⟩, ⟨"dist/../c".toList⟩⟩, rfl, by decide⟩

end Target
end CommentBlocks
