import CommentBlocks.Proofs.Modes
import CommentBlocks.Proofs.Tasks

/-! What a check tells about a run that writes. A check compares every source with its transformed text and
looks at no destination. Where all results take the place of their sources, and no file comes twice, it is
right about the run. -/

namespace CommentBlocks

open Disk

variable {m : Mode} {o : Options} {d : Disk} {job : Job} {t : Task} {ts : List Task} {config : Path} {c : Command}
  {content : Text} {outcome : Outcome} {l : Location} {s : Summary}

namespace Report

variable {r : Report} {next : Disk → Report}

def Clean (r : Report) : Prop := ∃ s, r.result = .ok s ∧ s.changed = 0

lemma clean_andThen : (r.andThen next).Clean ↔ r.Clean ∧ (next r.disk).Clean := by
  simp only [Clean, andThen_eq_ok_iff]
  constructor
  · rintro ⟨_, ⟨s, t, hs, ht, rfl⟩, hz⟩
    obtain ⟨hs₀, ht₀⟩ := Nat.add_eq_zero_iff.mp hz
    exact ⟨⟨s, hs, hs₀⟩, t, ht, ht₀⟩
  · rintro ⟨⟨s, hs, hs₀⟩, t, ht, ht₀⟩
    exact ⟨s.add t, ⟨s, t, hs, ht, rfl⟩, by rw [Summary.add, hs₀, ht₀]⟩

end Report

namespace Task

def Settled (d : Disk) (t : Task) : Prop :=
  ∃ content outcome, t.job.transformed t.options d = .ok (content, outcome) ∧ outcome.content = content

lemma settled_iff_of_transformed (h : t.job.transformed t.options d = .ok (content, outcome)) :
    t.Settled d ↔ outcome.content = content := by
  simp [Settled, h, eq_comm]

lemma clean_apply_check : (t.job.apply t.options .check d).Clean ↔ t.Settled d := by
  cases h : t.job.transformed t.options d with
  | error e =>
    rw [Job.apply_of_error h]
    simp [Report.Clean, Report.fail, Settled, h]
  | ok x =>
    obtain ⟨content, outcome⟩ := x
    rw [Job.apply_of_ok h, settled_iff_of_transformed h]
    simp [Report.Clean, Report.tell, Job.deliver, Job.summary]

lemma clean_applyAll_check : (applyAll .check d ts).Clean ↔ ∀ t ∈ ts, t.Settled d := by
  induction ts with
  | nil => simp [applyAll, Report.Clean]
  | cons t ts ih =>
    rw [applyAll, Report.clean_andThen, clean_apply_check, Job.disk_apply_of_ne_write (by decide), ih,
      List.forall_mem_cons]

lemma isInPlace_of_inPlace (h : t.InPlace) : t.job.isInPlace = true := by
  rw [Job.isInPlace, show t.job.destination = t.job.source from h, Path.same_refl]

lemma apply_write_of_settled (hin : t.InPlace) (hs : t.Settled d) :
    (t.job.apply t.options .write d).disk = d ∧ (t.job.apply t.options .write d).Clean := by
  obtain ⟨content, outcome, h, rfl⟩ := hs
  have hw : (Job.Finding.mk t.job outcome.content outcome).isWritten = false := by
    simp [Job.Finding.isWritten, Job.Finding.changes, isInPlace_of_inPlace hin]
  rw [Job.apply_of_ok h, Job.deliver_write_of_not_written hw]
  exact ⟨rfl, _, rfl, by simp [Job.summary]⟩

lemma applyAll_write_of_settled (hin : ∀ t ∈ ts, t.InPlace) (hs : ∀ t ∈ ts, t.Settled d) :
    (applyAll .write d ts).disk = d ∧ (applyAll .write d ts).Clean := by
  induction ts with
  | nil => exact ⟨rfl, _, rfl, rfl⟩
  | cons t ts ih =>
    obtain ⟨hin₁, hin₂⟩ := List.forall_mem_cons.mp hin
    obtain ⟨hs₁, hs₂⟩ := List.forall_mem_cons.mp hs
    obtain ⟨hd, s, hr, hz⟩ := apply_write_of_settled hin₁ hs₁
    obtain ⟨hd', hc⟩ := ih hin₂ hs₂
    rw [applyAll, Report.clean_andThen, Report.andThen_of_ok hr, hd]
    exact ⟨hd', ⟨s, hr, hz⟩, hc⟩

lemma contents?_applyAll_of_ne (h : ∀ t ∈ ts, d.place t.job.destination ≠ l) :
    (applyAll m d ts).disk.contents? l = d.contents? l := by
  induction ts generalizing d with
  | nil => rfl
  | cons t ts ih =>
    obtain ⟨ht, hts⟩ := List.forall_mem_cons.mp h
    have hd := Job.contents?_apply_of_ne (Ne.symm ht) t.options m
    rw [applyAll]
    cases hr : (t.job.apply t.options m d).result with
    | error e => rw [Report.andThen_of_error hr, hd]
    | ok s =>
      rw [Report.andThen_of_ok hr, ih, hd]
      intro u hu
      rw [(Job.grows_apply t.options m d t.job).place]
      exact hts u hu

lemma contents?_of_transformed (h : job.transformed o d = .ok (content, outcome)) :
    d.contents? (d.place job.source) = some (.text content) :=
  contents?_eq_some_iff.mpr (find_eq_ok_iff.mp (read_eq_ok_iff.mp (Job.transformed_eq_ok_iff.mp h).1)).2

lemma contents?_apply_of_changed (h : job.transformed o d = .ok (content, outcome))
    (hne : outcome.content ≠ content) (hok : (job.apply o .write d).result = .ok s) :
    (job.apply o .write d).disk.contents? (d.place job.destination) = some (.text outcome.content) := by
  have hw : (Job.Finding.mk job content outcome).isWritten = true := by
    simp [Job.Finding.isWritten, Job.Finding.changes, hne]
  rw [Job.apply_of_ok h, Job.deliver_write_of_written hw] at hok ⊢
  cases hsave : (Job.save d job.destination outcome.content).2 with
  | error e =>
    rw [hsave] at hok
    cases hok
  | ok u => exact ((Job.saves_of_save hsave).contents _).trans (if_pos rfl)

lemma settled_of_unchanged (hin : ∀ t ∈ ts, t.InPlace)
    (hap : ts.Pairwise fun t u => d.place t.job.source ≠ d.place u.job.source)
    (hok : (applyAll .write d ts).result = .ok s)
    (hsame : ∀ l, (applyAll .write d ts).disk.contents? l = d.contents? l) : ∀ t ∈ ts, t.Settled d := by
  induction ts generalizing s with
  | nil => simp
  | cons t ts ih =>
    obtain ⟨hin₁, hin₂⟩ := List.forall_mem_cons.mp hin
    obtain ⟨hap₁, hap₂⟩ := List.pairwise_cons.mp hap
    rw [applyAll] at hok hsame
    obtain ⟨v, w, hv, hw, -⟩ := Report.andThen_eq_ok_iff.mp hok
    rw [Report.andThen_of_ok hv] at hsame
    have ht : t.Settled d := by
      cases h : t.job.transformed t.options d with
      | error e =>
        rw [Job.apply_of_error h] at hv
        cases hv
      | ok x =>
        obtain ⟨content, outcome⟩ := x
        rw [settled_iff_of_transformed h]
        by_contra hne
        -- the new text would still be there at the end
        have hafter := contents?_apply_of_changed h hne hv
        have hkept := hsame (d.place t.job.destination)
        rw [contents?_applyAll_of_ne, hafter, hin₁, contents?_of_transformed h] at hkept
        · exact hne (Contents.text.inj (Option.some.inj hkept))
        · intro u hu
          rw [(Job.grows_apply t.options .write d t.job).place, hin₂ u hu, hin₁]
          exact Ne.symm (hap₁ u hu)
    obtain ⟨hd, -⟩ := apply_write_of_settled hin₁ ht
    rw [hd] at hw hsame
    exact List.forall_mem_cons.mpr ⟨ht, ih hin₂ hap₂ hw hsame⟩

end Task

namespace Command

lemma code_conclude_check {r : Report} : (conclude .check r).code = 0 ↔ r.Clean := by
  rw [conclude]
  cases hr : r.result with
  | error e => simp [Ending.code, Report.Clean, hr]
  | ok s =>
    simp only [Ending.code, Report.Clean, hr]
    by_cases hs : s.changed = 0 <;> simp [hs, Nat.pos_iff_ne_zero]

lemma code_conclude_write {r : Report} : (conclude .write r).code = 0 ↔ ∃ s, r.result = .ok s := by
  rw [conclude]
  cases hr : r.result <;> simp [Ending.code]

lemma disk_conclude (m : Mode) (r : Report) : (conclude m r).disk = r.disk := by
  rw [conclude]
  split <;> rfl

def InPlace (config : Path) (d : Disk) (c : Command) : Prop :=
  ∀ ts, c.tasks config d = .ok ts → ∀ t ∈ ts, t.InPlace

def Apart (config : Path) (d : Disk) (c : Command) : Prop :=
  ∀ ts, c.tasks config d = .ok ts → ts.Pairwise fun t u => d.place t.job.source ≠ d.place u.job.source

/-- The command succeeds, and there are the same files with the same contents after it. -/
def Quiet (config : Path) (d : Disk) (c : Command) : Prop :=
  (c.execute config d).code = 0 ∧ ∀ l, (c.execute config d).disk.contents? l = d.contents? l

lemma clean_report_check :
    (c.report config .check d).Clean ↔ ∃ ts, c.tasks config d = .ok ts ∧ ∀ t ∈ ts, t.Settled d := by
  constructor
  · intro h
    obtain ⟨s, hs, -⟩ := id h
    obtain ⟨ts, hts⟩ := exists_tasks hs
    have ha := agrees_report (m := .check) hts fun hw => by cases hw
    rw [Report.Clean, ha.result] at h
    exact ⟨ts, hts, Task.clean_applyAll_check.mp h⟩
  · rintro ⟨ts, hts, hs⟩
    have ha := agrees_report (m := .check) hts fun hw => by cases hw
    rw [Report.Clean, ha.result]
    exact Task.clean_applyAll_check.mpr hs

/-- A check succeeds iff every source that the command would read is settled. If all results take the place of
their sources, a successful check means that a run which writes succeeds and leaves the disk as it is; and if
no file comes twice besides, the check succeeds only then. -/
theorem execute_check_iff (hc : c ≠ .targets) (config : Path) (d : Disk) :
    (((c.inMode .check).execute config d).code = 0 ↔ ∃ ts, c.tasks config d = .ok ts ∧ ∀ t ∈ ts, t.Settled d) ∧
      (c.InPlace config d → ((c.inMode .check).execute config d).code = 0 →
        ((c.inMode .write).execute config d).code = 0 ∧ ((c.inMode .write).execute config d).disk = d) ∧
      (c.InPlace config d → c.Apart config d →
        (((c.inMode .check).execute config d).code = 0 ↔ (c.inMode .write).Quiet config d)) := by
  rw [Quiet, execute_inMode hc, execute_inMode hc, code_conclude_check, code_conclude_write, disk_conclude,
    clean_report_check]
  have hquiet : c.InPlace config d → (∃ ts, c.tasks config d = .ok ts ∧ ∀ t ∈ ts, t.Settled d) →
      (∃ s, (c.report config .write d).result = .ok s) ∧ (c.report config .write d).disk = d := by
    rintro hin ⟨ts, hts, hs⟩
    have ha := agrees_report (m := .write) hts fun _ => hin ts hts
    obtain ⟨hd, s, hr, -⟩ := Task.applyAll_write_of_settled (hin ts hts) hs
    exact ⟨⟨s, ha.result.trans hr⟩, ha.disk.trans hd⟩
  refine ⟨Iff.rfl, hquiet, fun hin hap => ⟨fun h => ?_, ?_⟩⟩
  · obtain ⟨hok, hd⟩ := hquiet hin h
    exact ⟨hok, fun l => by rw [hd]⟩
  · rintro ⟨⟨s, hs⟩, hsame⟩
    obtain ⟨ts, hts⟩ := exists_tasks hs
    have ha := agrees_report (m := .write) hts fun _ => hin ts hts
    rw [ha.disk] at hsame
    exact ⟨ts, hts, Task.settled_of_unchanged (hin ts hts) (hap ts hts) (ha.result.symm.trans hs) hsame⟩

lemma tasks_shared (files : List Path) (m : Mode) :
    (process files none {} m).tasks ⟨"toggler.toml".toList⟩ Job.sharedDisk =
      .ok (files.map fun p => ⟨{}, .inPlace p⟩) := by
  have h : Settings.loadIfPresent Job.sharedDisk ⟨"toggler.toml".toList⟩ = .ok {} := rfl
  rw [tasks, h]
  simp [Except.map, Job.ofFile, Settings.resolve, Overlay.over]

theorem execute_check_iff_shared :
    (((process [⟨"a".toList⟩] none {} .check).execute ⟨"toggler.toml".toList⟩ Job.sharedDisk).code = 0 ∧
        (process [⟨"a".toList⟩] none {} .write).Quiet ⟨"toggler.toml".toList⟩ Job.sharedDisk) ∧
      ((process [⟨"a".toList⟩, ⟨"b".toList⟩] none {} .check).execute
        ⟨"toggler.toml".toList⟩ Job.sharedDisk).code ≠ 0 ∧
        ¬ (process [⟨"a".toList⟩, ⟨"b".toList⟩] none {} .write).Quiet ⟨"toggler.toml".toList⟩ Job.sharedDisk := by
  have hin : ∀ files, (process files none {} .write).InPlace ⟨"toggler.toml".toList⟩ Job.sharedDisk := by
    intro files ts hts t ht
    obtain rfl := Except.ok.inj ((tasks_shared files .write).symm.trans hts)
    obtain ⟨p, -, rfl⟩ := List.mem_map.mp ht
    rfl
  have hap : ∀ files, files.Pairwise (fun p q => Job.sharedDisk.place p ≠ Job.sharedDisk.place q) →
      (process files none {} .write).Apart ⟨"toggler.toml".toList⟩ Job.sharedDisk := by
    intro files hp ts hts
    obtain rfl := Except.ok.inj ((tasks_shared files .write).symm.trans hts)
    exact List.pairwise_map.mpr hp
  have ha : Task.Settled Job.sharedDisk ⟨{}, .inPlace ⟨"a".toList⟩⟩ :=
    ⟨"x".toList, ⟨"x".toList, []⟩, rfl, rfl⟩
  have hb : ¬ Task.Settled Job.sharedDisk ⟨{}, .inPlace ⟨"b".toList⟩⟩ := by
    have ht : (Job.inPlace ⟨"b".toList⟩).transformed {} Job.sharedDisk =
        .ok ("<!--comments:comment #-->\ny".toList,
          ⟨"<!--comments:comment #-->\n# y".toList, [⟨.comment, 1⟩]⟩) := rfl
    rw [Task.settled_iff_of_transformed ht]
    decide
  obtain ⟨hone, -, hquiet⟩ := execute_check_iff (c := process [⟨"a".toList⟩] none {} .write) (by decide)
    ⟨"toggler.toml".toList⟩ Job.sharedDisk
  obtain ⟨htwo, -, hquiet'⟩ := execute_check_iff (c := process [⟨"a".toList⟩, ⟨"b".toList⟩] none {} .write)
    (by decide) ⟨"toggler.toml".toList⟩ Job.sharedDisk
  have hcode := hone.mpr ⟨_, tasks_shared _ _, by simpa using ha⟩
  have hcode' : ¬ ((process [⟨"a".toList⟩, ⟨"b".toList⟩] none {} .check).execute ⟨"toggler.toml".toList⟩
      Job.sharedDisk).code = 0 := by
    intro h
    obtain ⟨ts, hts, hs⟩ := htwo.mp h
    obtain rfl := Except.ok.inj ((tasks_shared _ _).symm.trans hts)
    exact hb (hs _ (by simp))
  exact ⟨⟨hcode, (hquiet (hin _) (hap _ (by decide))).mp hcode⟩, hcode',
    mt (hquiet' (hin _) (hap _ (by decide))).mpr hcode'⟩

def intoDist : Command := process [⟨"a.txt".toList⟩] (some ⟨"dist".toList⟩) {} .write

def staleDisk : Disk := .ofEntries []
  [(["a.txt".toList], .file (.text "new\n".toList)), (["dist".toList], .directory),
   (["dist".toList, "a.txt".toList], .file (.text "old\n".toList))]

def currentDisk : Disk := .ofEntries []
  [(["a.txt".toList], .file (.text "<!--comments:comment #-->\ny".toList)),
   (["dist".toList], .directory),
   (["dist".toList, "a.txt".toList], .file (.text "<!--comments:comment #-->\n# y".toList))]

theorem not_execute_check_iff_into_dist :
    (((intoDist.inMode .check).execute ⟨"toggler.toml".toList⟩ staleDisk).code = 0 ∧
        ¬ (intoDist.inMode .write).Quiet ⟨"toggler.toml".toList⟩ staleDisk) ∧
      ((intoDist.inMode .check).execute ⟨"toggler.toml".toList⟩ currentDisk).code ≠ 0 ∧
        (intoDist.inMode .write).Quiet ⟨"toggler.toml".toList⟩ currentDisk := by
  have hstale : (intoDist.report ⟨"toggler.toml".toList⟩ .check staleDisk).result = .ok ⟨1, 0, 0⟩ := rfl
  have hnew : (intoDist.report ⟨"toggler.toml".toList⟩ .write staleDisk).disk.contents?
      ["dist".toList, "a.txt".toList] = some (.text "new\n".toList) := rfl
  have hcurrent : (intoDist.report ⟨"toggler.toml".toList⟩ .check currentDisk).result = .ok ⟨1, 1, 1⟩ := rfl
  have hsame : intoDist.report ⟨"toggler.toml".toList⟩ .write currentDisk =
      ⟨currentDisk.put ["dist".toList, "a.txt".toList] (.file (.text "<!--comments:comment #-->\n# y".toList)),
        [.warning ⟨"a.txt".toList⟩ ⟨.comment, 1⟩], .ok ⟨1, 1, 1⟩⟩ := rfl
  have hexecute : ∀ m d, (intoDist.inMode m).execute ⟨"toggler.toml".toList⟩ d =
      conclude m (intoDist.report ⟨"toggler.toml".toList⟩ m d) := fun m d => execute_inMode (by decide) m _ d
  simp only [Quiet, hexecute, ne_eq, code_conclude_check, code_conclude_write, disk_conclude]
  refine ⟨⟨⟨_, hstale, rfl⟩, ?_⟩, ?_, ?_⟩
  · rintro ⟨-, h⟩
    have hold := h ["dist".toList, "a.txt".toList]
    rw [hnew] at hold
    revert hold
    decide
  · rintro ⟨s, hs, hz⟩
    obtain rfl := Except.ok.inj (hcurrent.symm.trans hs)
    cases hz
  · rw [hsame]
    refine ⟨⟨_, rfl⟩, fun l => ?_⟩
    rw [contents?_put_file (by decide) (by decide)]
    split
    · next hl =>
      subst hl
      decide
    · rfl

end Command
end CommentBlocks
