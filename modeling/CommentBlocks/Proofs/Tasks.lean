import CommentBlocks.Proofs.Runs
import CommentBlocks.Proofs.Shapes

/-! The jobs of a command, found on one disk before the first of them is carried out. A command finds the jobs of a
target when its turn comes; but when every result takes the place of its source, the disk keeps its shape, and the
command carries out just these jobs. -/

namespace CommentBlocks

open Disk

structure Task where
  options : Options
  job : Job

variable {m : Mode} {o : Options} {d d' : Disk} {job : Job} {jobs : List Job} {ts us : List Task}
  {config : Path} {s : Settings} {top : Overlay} {names : List Text} {name : Text} {c : Command}

namespace Report

variable {r r' : Report} {next next' : Disk → Report}

/-- The reports differ in their notices at most. -/
structure Agrees (r r' : Report) : Prop where
  disk : r.disk = r'.disk
  result : r.result = r'.result

namespace Agrees

lemma refl (r : Report) : Agrees r r := ⟨rfl, rfl⟩

lemma andThen (h : Agrees r r') (hn : Agrees (next r'.disk) (next' r'.disk)) :
    Agrees (r.andThen next) (r'.andThen next') := by
  cases hr : r'.result with
  | error e => rwa [andThen_of_error hr, andThen_of_error (h.result.trans hr)]
  | ok s =>
    rw [andThen_of_ok hr, andThen_of_ok (h.result.trans hr), h.disk]
    exact ⟨hn.disk, congrArg (Except.map s.add) hn.result⟩

end Agrees

end Report

namespace Task

def InPlace (t : Task) : Prop := t.job.destination = t.job.source

instance (t : Task) : Decidable t.InPlace := inferInstanceAs (Decidable (_ = _))

def applyAll (m : Mode) : Disk → List Task → Report
  | d, [] => ⟨d, [], .ok {}⟩
  | d, t :: ts => (t.job.apply t.options m d).andThen fun d => applyAll m d ts

lemma applyAll_append (m : Mode) (d : Disk) (ts us : List Task) :
    applyAll m d (ts ++ us) = (applyAll m d ts).andThen fun d => applyAll m d us := by
  induction ts generalizing d with
  | nil => rw [List.nil_append, applyAll, Report.andThen_nothing]
  | cons t ts ih => simp only [List.cons_append, applyAll, Report.andThen_assoc, ih]

lemma applyAll_map (m : Mode) (d : Disk) (o : Options) (jobs : List Job) :
    applyAll m d (jobs.map (Task.mk o)) = Job.applyAll o m d jobs := by
  induction jobs generalizing d with
  | nil => rfl
  | cons job jobs ih => simp only [List.map_cons, applyAll, Job.applyAll, ih]

end Task

namespace Job

lemma sameShape_apply (hm : m = .write → job.destination = job.source) (hs : d.isFile job.source = true) :
    SameShape d (job.apply o m d).disk := by
  by_cases hw : m = .write
  · rcases disk_apply o m d job with h | ⟨t, h⟩
    · rw [h]
      exact SameShape.refl d
    · rw [h, hm hw]
      exact sameShape_save hs t
  · rw [disk_apply_of_ne_write hw]
    exact SameShape.refl d

lemma sameShape_applyAll (hm : m = .write → ∀ job ∈ jobs, job.destination = job.source)
    (hs : ∀ job ∈ jobs, d.isFile job.source = true) : SameShape d (applyAll o m d jobs).disk := by
  induction jobs generalizing d with
  | nil => exact SameShape.refl d
  | cons job jobs ih =>
    obtain ⟨hs₁, hs₂⟩ := List.forall_mem_cons.mp hs
    have hjob : SameShape d (job.apply o m d).disk :=
      sameShape_apply (fun hw => hm hw job List.mem_cons_self) hs₁
    rw [applyAll_cons]
    cases hr : (job.apply o m d).result with
    | error e => rwa [Report.andThen_of_error hr]
    | ok s =>
      rw [Report.andThen_of_ok hr]
      exact hjob.trans (ih (fun hw b hb => hm hw b (List.mem_cons_of_mem _ hb))
        fun b hb => hjob.grows.isFile (hs₂ b hb))

end Job

namespace Command

def inMode (m : Mode) : Command → Command
  | process files out top _ => process files out top m
  | run names top _ => run names top m
  | targets => targets

def targetTasks (s : Settings) (top : Overlay) (d : Disk) : List Text → Except Failure (List Task)
  | [] => .ok []
  | name :: names =>
    match s.target name with
    | .error e => .error (.unknownTarget e)
    | .ok t =>
      match t.expand d s.root with
      | .error e => .error (.pattern e)
      | .ok jobs => (targetTasks s top d names).map (jobs.map (Task.mk (s.resolve (some t) top)) ++ ·)

def tasks (config : Path) (d : Disk) : Command → Except Failure (List Task)
  | process files out top _ =>
    (Settings.loadIfPresent d config).map fun s => (files.map (Job.ofFile out)).map (Task.mk (s.resolve none top))
  | run names top _ =>
    match Settings.load d config with
    | .error e => .error e
    | .ok s => if selected s names = [] then .error (.noTargets config) else targetTasks s top d (selected s names)
  | targets => .ok []

def report (config : Path) (m : Mode) (d : Disk) : Command → Report
  | process files out top _ => processFiles config files out top m d
  | run names top _ => runSelected config names top m d
  | targets => ⟨d, [], .ok {}⟩

lemma execute_inMode (hc : c ≠ .targets) (m : Mode) (config : Path) (d : Disk) :
    (c.inMode m).execute config d = conclude m (c.report config m d) := by
  cases c with
  | targets => exact absurd rfl hc
  | _ => rfl

lemma targetTasks_cons_eq_ok_iff :
    targetTasks s top d (name :: names) = .ok ts ↔
      ∃ t jobs rest, s.target name = .ok t ∧ t.expand d s.root = .ok jobs ∧ targetTasks s top d names = .ok rest ∧
        ts = jobs.map (Task.mk (s.resolve (some t) top)) ++ rest := by
  rw [targetTasks]
  cases ht : s.target name with
  | error e => simp
  | ok t =>
    cases hj : t.expand d s.root with
    | error e => simp [hj]
    | ok jobs =>
      cases targetTasks s top d names with
      | error e => simp [hj, Except.map]
      | ok rest => simp [hj, Except.map, eq_comm]

lemma targetTasks_eq_of_sameShape (h : SameShape d d') (s : Settings) (top : Overlay) (names : List Text) :
    targetTasks s top d' names = targetTasks s top d names := by
  induction names with
  | nil => rfl
  | cons name names ih => simp only [targetTasks, Target.expand_eq_of_sameShape h, ih]

lemma runTarget_of_expand {t : Target} (ht : s.target name = .ok t) (hj : t.expand d s.root = .ok jobs)
    (m : Mode) :
    runTarget s top m d name =
      (Job.applyAll (s.resolve (some t) top) m d jobs).tell [.running name jobs.length] := by
  simp only [runTarget, ht, hj]

lemma agrees_runTargets (h : targetTasks s top d names = .ok ts) (hm : m = .write → ∀ t ∈ ts, t.InPlace) :
    (runTargets s top m d names).Agrees (Task.applyAll m d ts) := by
  induction names generalizing d ts with
  | nil =>
    obtain rfl := Except.ok.inj h
    exact Report.Agrees.refl _
  | cons name names ih =>
    obtain ⟨t, jobs, rest, ht, hj, hrest, rfl⟩ := targetTasks_cons_eq_ok_iff.mp h
    rw [runTargets, runTarget_of_expand ht hj, Task.applyAll_append, Task.applyAll_map]
    have hshape : SameShape d (Job.applyAll (s.resolve (some t) top) m d jobs).disk :=
      Job.sameShape_applyAll
        (fun hw b hb => hm hw _ (List.mem_append_left _ (List.mem_map_of_mem (f := Task.mk _) hb)))
        fun b hb => Target.isFile_of_mem_expand hj hb
    -- so the other targets still have the tasks that were found for them
    refine Report.Agrees.andThen ⟨rfl, rfl⟩ (ih ?_ fun hw u hu => hm hw u (List.mem_append_right _ hu))
    rw [targetTasks_eq_of_sameShape hshape, hrest]

lemma agrees_report (h : c.tasks config d = .ok ts) (hm : m = .write → ∀ t ∈ ts, t.InPlace) :
    (c.report config m d).Agrees (Task.applyAll m d ts) := by
  cases c with
  | process files out top _ =>
    rw [tasks] at h
    rw [report, processFiles]
    cases hs : Settings.loadIfPresent d config with
    | error e =>
      rw [hs] at h
      cases h
    | ok s =>
      rw [hs] at h
      obtain rfl := Except.ok.inj h
      rw [Task.applyAll_map]
      exact Report.Agrees.refl _
  | run names top _ =>
    rw [tasks] at h
    rw [report, runSelected]
    cases hs : Settings.load d config with
    | error e => simp only [hs, reduceCtorEq] at h
    | ok s =>
      simp only [hs] at h ⊢
      cases hn : selected s names with
      | nil => simp [hn] at h
      | cons name names =>
        simp only [hn, reduceCtorEq, if_false] at h
        exact agrees_runTargets h hm
  | targets =>
    obtain rfl := Except.ok.inj h
    exact Report.Agrees.refl _

lemma exists_targetTasks {u : Summary} (h : (runTargets s top m d names).result = .ok u) (d' : Disk) :
    ∃ ts, targetTasks s top d' names = .ok ts := by
  induction names generalizing d u with
  | nil => exact ⟨[], rfl⟩
  | cons name names ih =>
    rw [runTargets] at h
    obtain ⟨v, w, hv, hw, -⟩ := Report.andThen_eq_ok_iff.mp h
    obtain ⟨rest, hrest⟩ := ih hw
    rw [runTarget] at hv
    cases ht : s.target name with
    | error e => simp only [ht, Report.fail, reduceCtorEq] at hv
    | ok t =>
      cases hj : t.expand d s.root with
      | error e => simp only [ht, hj, Report.fail, reduceCtorEq] at hv
      | ok jobs =>
        obtain ⟨jobs', hj'⟩ := Target.exists_expand hj d'
        exact ⟨_, targetTasks_cons_eq_ok_iff.mpr ⟨t, jobs', rest, ht, hj', hrest, rfl⟩⟩

lemma exists_tasks {u : Summary} (h : (c.report config m d).result = .ok u) : ∃ ts, c.tasks config d = .ok ts := by
  cases c with
  | process files out top _ =>
    rw [report, processFiles] at h
    cases hs : Settings.loadIfPresent d config with
    | error e => simp only [hs, Report.fail, reduceCtorEq] at h
    | ok s => exact ⟨_, by rw [tasks, hs]; rfl⟩
  | run names top _ =>
    rw [report, runSelected] at h
    cases hs : Settings.load d config with
    | error e => simp only [hs, Report.fail, reduceCtorEq] at h
    | ok s =>
      simp only [hs] at h
      simp only [tasks, hs]
      cases hn : selected s names with
      | nil => simp only [hn, Report.fail, reduceCtorEq] at h
      | cons name names =>
        simp only [hn] at h
        simpa using exists_targetTasks h d
  | targets => exact ⟨[], rfl⟩

end Command
end CommentBlocks
