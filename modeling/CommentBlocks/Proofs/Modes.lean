import CommentBlocks.Proofs.Runs
import Mathlib.Algebra.GroupWithZero.Nat

/-! The three modes on the same jobs. A survey looks at the jobs on a disk that stays as it is. As long as no
job writes what a later one reads, every mode ends as the survey does, and a run that writes leaves exactly
the texts of the survey, the last one wherever jobs share a destination. -/

namespace CommentBlocks.Job

open Disk

variable {o : Options} {m : Mode} {d d' d'' : Disk} {job : Job} {jobs : List Job} {content : Text}
  {outcome : Outcome} {e : Failure} {ns : List Notice}

structure Finding where
  job : Job
  content : Text
  outcome : Outcome

namespace Finding

def changes (f : Finding) : Bool := f.outcome.content ≠ f.content

def isWritten (f : Finding) : Bool := f.changes || !f.job.isInPlace

end Finding

/-- The jobs before the first one that fails, and its failure, all of them on the same disk. -/
def survey (o : Options) (d : Disk) : List Job → List Finding × Option Failure
  | [] => ([], none)
  | job :: jobs =>
    match job.transformed o d with
    | .error e => ([], some e)
    | .ok (content, outcome) => (⟨job, content, outcome⟩ :: (survey o d jobs).1, (survey o d jobs).2)

structure Surveyed (o : Options) (d : Disk) (jobs : List Job) (x : List Finding × Option Failure) : Prop where
  found : ∀ f ∈ x.1, f.job.transformed o d = .ok (f.content, f.outcome)
  first : x.1.map Finding.job = jobs.take x.1.length
  all : x.2 = none → x.1.length = jobs.length
  stopped : ∀ e, x.2 = some e → ∃ job, jobs[x.1.length]? = some job ∧ job.transformed o d = .error e

def totals (fs : List Finding) : Summary :=
  ⟨fs.length, fs.countP Finding.changes, (fs.map fun f => f.outcome.warnings.length).sum⟩

def verdict : List Finding × Option Failure → Except Failure Summary
  | (fs, none) => .ok (totals fs)
  | (_, some e) => .error e

def finished (o : Options) (m : Mode) : Disk → List Job → Nat
  | _, [] => 0
  | d, job :: jobs =>
    match (job.apply o m d).result with
    | .error _ => 0
    | .ok _ => finished o m (job.apply o m d).disk jobs + 1

def EndsAs (o : Options) (m : Mode) (d : Disk) (jobs : List Job) (x : List Finding × Option Failure) : Prop :=
  (applyAll o m d jobs).result = verdict x ∧ finished o m d jobs = x.1.length

def writesFreely (o : Options) : Disk → List Job → Bool
  | _, [] => true
  | d, job :: jobs =>
    match job.transformed o d with
    | .error _ => true
    | .ok (content, outcome) =>
      (job.deliver .write d content outcome).result.isOk &&
        writesFreely o (job.deliver .write d content outcome).disk jobs

/-- The second disk has the written texts, and is otherwise the first one with more directories. -/
structure Written (d d' : Disk) (fs : List Finding) : Prop where
  grows : Grows d d'
  untouched : ∀ l, (∀ f ∈ fs, f.isWritten = true → d.place f.job.destination ≠ l) → d'.contents? l = d.contents? l
  last : ∀ before f later, fs = before ++ f :: later → f.isWritten = true →
    (∀ g ∈ later, g.isWritten = true → d.place g.job.destination ≠ d.place f.job.destination) →
    d'.contents? (d.place f.job.destination) = some (.text f.outcome.content)

lemma apply_of_error (h : job.transformed o d = .error e) : job.apply o m d = .fail d e := by
  rw [apply, h]

lemma apply_of_ok (h : job.transformed o d = .ok (content, outcome)) :
    job.apply o m d = (job.deliver m d content outcome).tell (job.warnings outcome) := by
  rw [apply, h]

lemma transformed_eq_ok_iff :
    job.transformed o d = .ok (content, outcome) ↔
      d.read job.source = .ok content ∧ Document.transform o content = .ok outcome := by
  rw [transformed]
  constructor
  · intro h
    cases hr : d.read job.source with
    | error fault => simp only [hr, reduceCtorEq] at h
    | ok text =>
      cases ht : Document.transform o text with
      | error e => simp only [hr, ht, reduceCtorEq] at h
      | ok out =>
        simp only [hr, ht, Except.ok.injEq, Prod.mk.injEq] at h
        obtain ⟨rfl, rfl⟩ := h
        exact ⟨rfl, ht⟩
  · rintro ⟨hr, ht⟩
    simp only [hr, ht]

lemma deliver_write_of_not_written (h : (Finding.mk job content outcome).isWritten = false) (d : Disk) :
    job.deliver .write d content outcome = ⟨d, [], .ok (summary content outcome)⟩ := by
  simp only [Finding.isWritten, Finding.changes] at h
  simp only [deliver, h, Bool.false_eq_true, if_false]

lemma deliver_write_of_written (h : (Finding.mk job content outcome).isWritten = true) (d : Disk) :
    job.deliver .write d content outcome =
      ⟨(save d job.destination outcome.content).1, [],
        (save d job.destination outcome.content).2.map fun _ => summary content outcome⟩ := by
  simp only [Finding.isWritten, Finding.changes] at h
  simp only [deliver, h, if_true]

lemma surveyed_survey (o : Options) (d : Disk) (jobs : List Job) : Surveyed o d jobs (survey o d jobs) := by
  induction jobs with
  | nil => exact ⟨by simp [survey], rfl, fun _ => rfl, by simp [survey]⟩
  | cons job jobs ih =>
    rw [survey]
    cases ht : job.transformed o d with
    | error e => exact ⟨by simp, rfl, by simp, fun e' h => ⟨job, rfl, ht.trans (by simpa using h)⟩⟩
    | ok x =>
      exact
        { found := List.forall_mem_cons.mpr ⟨ht, ih.found⟩
          first := congrArg (job :: ·) ih.first
          all := fun h => congrArg (· + 1) (ih.all h)
          stopped := ih.stopped }

lemma transformed_of_grows (h : Grows d d') (hs : d.isFile job.source = true)
    (hc : d'.contents? (d.place job.source) = d.contents? (d.place job.source)) :
    job.transformed o d' = job.transformed o d := by
  rw [transformed, transformed, Disk.read, Disk.read, h.find_file hs hc]

lemma survey_of_grows (h : Grows d d') (hs : ∀ job ∈ jobs, d.isFile job.source = true)
    (hc : ∀ job ∈ jobs, d'.contents? (d.place job.source) = d.contents? (d.place job.source)) :
    survey o d' jobs = survey o d jobs := by
  induction jobs with
  | nil => rfl
  | cons job jobs ih =>
    obtain ⟨hs₁, hs₂⟩ := List.forall_mem_cons.mp hs
    obtain ⟨hc₁, hc₂⟩ := List.forall_mem_cons.mp hc
    rw [survey, survey, transformed_of_grows h hs₁ hc₁, ih hs₂ hc₂]

lemma totals_cons (f : Finding) (fs : List Finding) :
    totals (f :: fs) = (summary f.content f.outcome).add (totals fs) := by
  simp only [totals, summary, Summary.add, List.length_cons, List.countP_cons, List.map_cons, List.sum_cons,
    Finding.changes, Nat.add_comm 1]
  by_cases hc : f.outcome.content = f.content <;> simp [hc, Nat.add_comm]

lemma verdict_cons (f : Finding) (x : List Finding × Option Failure) :
    verdict (f :: x.1, x.2) = (verdict x).map (summary f.content f.outcome).add := by
  obtain ⟨fs, stop⟩ := x
  cases stop with
  | none => simp only [verdict, Except.map, totals_cons]
  | some e => rfl

lemma written_refl (d : Disk) : Written d d [] :=
  ⟨Grows.refl d, fun _ _ => rfl, fun before f later h => by simp at h⟩

lemma Written.cons {f : Finding} {fs : List Finding} (h : Saves d d' f.job.destination f.outcome.content)
    (hf : f.isWritten = true) (hw : Written d' d'' fs) : Written d d'' (f :: fs) where
  grows := h.grows.trans hw.grows
  untouched l hl := by
    obtain ⟨hne, hfs⟩ := List.forall_mem_cons.mp hl
    have hl' : d'.contents? l = d.contents? l := by rw [h.contents, if_neg (Ne.symm (hne hf))]
    rw [← hl']
    refine hw.untouched l fun g hg hgw => ?_
    rw [h.grows.place]
    exact hfs g hg hgw
  last before g later heq hg hlater := by
    -- the job in front is the last one at its place only if none of the others writes there
    cases before with
    | nil =>
      obtain ⟨rfl, rfl⟩ := List.cons.inj heq
      have hplace : d'.contents? (d.place f.job.destination) = some (.text f.outcome.content) := by
        rw [h.contents, if_pos rfl]
      rw [← hplace]
      refine hw.untouched _ fun g hg hgw => ?_
      rw [h.grows.place]
      exact hlater g hg hgw
    | cons f' before =>
      obtain ⟨rfl, rfl⟩ := List.cons.inj heq
      have hl := hw.last before g later rfl hg
      simp only [h.grows.place] at hl
      exact hl hlater

lemma Written.cons_of_not_written {f : Finding} {fs : List Finding} (hf : f.isWritten = false)
    (hw : Written d d' fs) : Written d d' (f :: fs) where
  grows := hw.grows
  untouched l hl := hw.untouched l fun g hg => hl g (List.mem_cons_of_mem f hg)
  last before g later heq hg hlater := by
    cases before with
    | nil =>
      obtain ⟨rfl, rfl⟩ := List.cons.inj heq
      rw [hf] at hg
      cases hg
    | cons f' before =>
      obtain ⟨rfl, rfl⟩ := List.cons.inj heq
      exact hw.last before g later rfl hg hlater

lemma endsAs_cons_of_error (h : job.transformed o d = .error e) (m : Mode) (jobs : List Job) :
    (applyAll o m d (job :: jobs)).disk = d ∧ EndsAs o m d (job :: jobs) (survey o d (job :: jobs)) := by
  have ha : job.apply o m d = .fail d e := apply_of_error h
  rw [EndsAs, applyAll_cons, finished, ha, survey, h]
  exact ⟨rfl, rfl, rfl⟩

lemma endsAs_cons_of_ok (h : job.transformed o d = .ok (content, outcome))
    (hd : job.deliver m d content outcome = ⟨d', ns, .ok (summary content outcome)⟩)
    (hjobs : EndsAs o m d' jobs (survey o d jobs)) :
    (applyAll o m d (job :: jobs)).disk = (applyAll o m d' jobs).disk ∧
      EndsAs o m d (job :: jobs) (survey o d (job :: jobs)) := by
  have ha : job.apply o m d = ⟨d', job.warnings outcome ++ ns, .ok (summary content outcome)⟩ := by
    rw [apply_of_ok h, hd]
    rfl
  have hverdict := verdict_cons ⟨job, content, outcome⟩ (survey o d jobs)
  rw [← hjobs.1] at hverdict
  rw [EndsAs, applyAll_cons, finished, ha, survey, h]
  exact ⟨rfl, hverdict.symm, congrArg (· + 1) hjobs.2⟩

lemma endsAs_of_ne_write (hm : m ≠ .write) (o : Options) (d : Disk) (jobs : List Job) :
    EndsAs o m d jobs (survey o d jobs) := by
  induction jobs with
  | nil => exact ⟨rfl, rfl⟩
  | cons job jobs ih =>
    cases ht : job.transformed o d with
    | error e => exact (endsAs_cons_of_error ht m jobs).2
    | ok x =>
      obtain ⟨content, outcome⟩ := x
      obtain ⟨ns, hd⟩ := deliver_of_ne_write hm d job content outcome
      exact (endsAs_cons_of_ok ht hd ih).2

lemma applyAll_write (hs : ∀ job ∈ jobs, d.isFile job.source = true)
    (hfree : jobs.Pairwise fun a b => d.place a.destination ≠ d.place b.source)
    (hw : writesFreely o d jobs = true) :
    EndsAs o .write d jobs (survey o d jobs) ∧ Written d (applyAll o .write d jobs).disk (survey o d jobs).1 := by
  induction jobs generalizing d with
  | nil => exact ⟨⟨rfl, rfl⟩, written_refl d⟩
  | cons job jobs ih =>
    obtain ⟨-, hs⟩ := List.forall_mem_cons.mp hs
    obtain ⟨hjob, hfree⟩ := List.pairwise_cons.mp hfree
    rw [writesFreely] at hw
    cases ht : job.transformed o d with
    | error e =>
      obtain ⟨hdisk, hends⟩ := endsAs_cons_of_error ht .write jobs
      refine ⟨hends, ?_⟩
      rw [hdisk, survey, ht]
      exact written_refl d
    | ok x =>
      obtain ⟨content, outcome⟩ := x
      simp only [ht, Bool.and_eq_true] at hw
      cases hf : (Finding.mk job content outcome).isWritten with
      | false =>
        have hd := deliver_write_of_not_written hf d
        rw [hd] at hw
        obtain ⟨hends, hwritten⟩ := ih hs hfree hw.2
        obtain ⟨hdisk, hends⟩ := endsAs_cons_of_ok ht hd hends
        refine ⟨hends, ?_⟩
        rw [hdisk, survey, ht]
        exact hwritten.cons_of_not_written hf
      | true =>
        have hd := deliver_write_of_written hf d
        rw [hd] at hw
        cases hsave : (save d job.destination outcome.content).2 with
        | error e =>
          rw [hsave] at hw
          cases hw.1
        | ok u =>
          rw [hsave] at hd
          have hsaves := saves_of_save hsave
          -- the sources that are still to be read are not where this job has written
          have hsame : ∀ b ∈ jobs, (save d job.destination outcome.content).1.contents? (d.place b.source) =
              d.contents? (d.place b.source) := by
            intro b hb
            rw [hsaves.contents, if_neg (Ne.symm (hjob b hb))]
          obtain ⟨hends, hwritten⟩ := ih (fun b hb => hsaves.grows.isFile (hs b hb))
            (by simpa only [hsaves.grows.place] using hfree) hw.2
          rw [survey_of_grows hsaves.grows hs hsame] at hends hwritten
          obtain ⟨hdisk, hends⟩ := endsAs_cons_of_ok ht hd hends
          refine ⟨hends, ?_⟩
          rw [hdisk, survey, ht]
          exact hwritten.cons hsaves hf

/-- The three modes end alike, at the same job: each as the survey of the jobs on the first disk does. Only
the one that writes changes the disk, and it leaves the text of every job that changes something or has
another file for its result. -/
theorem applyAll_modes (hs : ∀ job ∈ jobs, d.isFile job.source = true)
    (hfree : jobs.Pairwise fun a b => d.place a.destination ≠ d.place b.source)
    (hw : writesFreely o d jobs = true) :
    Surveyed o d jobs (survey o d jobs) ∧
      (∀ m, EndsAs o m d jobs (survey o d jobs)) ∧
      (∀ m, m ≠ .write → (applyAll o m d jobs).disk = d) ∧
      Written d (applyAll o .write d jobs).disk (survey o d jobs).1 := by
  obtain ⟨hwrite, hwritten⟩ := applyAll_write hs hfree hw
  refine ⟨surveyed_survey o d jobs, fun m => ?_, fun m hm => disk_applyAll_of_ne_write hm o d jobs, hwritten⟩
  by_cases hm : m = .write
  · exact hm ▸ hwrite
  · exact endsAs_of_ne_write hm o d jobs

def sharedDisk : Disk := .ofEntries []
  [(["a".toList], .file (.text "x".toList)),
   (["b".toList], .file (.text "<!--comments:comment #-->\ny".toList)),
   (["c".toList], .file (.binary [255]))]

def sharedJobs : List Job :=
  [⟨⟨"a".toList⟩, ⟨"o/r".toList⟩⟩, ⟨⟨"b".toList⟩, ⟨"o/r".toList⟩⟩, inPlace ⟨"c".toList⟩]

theorem applyAll_modes_shared :
    (∀ job ∈ sharedJobs, sharedDisk.isFile job.source = true) ∧
      sharedJobs.Pairwise (fun a b => sharedDisk.place a.destination ≠ sharedDisk.place b.source) ∧
      writesFreely {} sharedDisk sharedJobs = true ∧
      (∀ m, (applyAll {} m sharedDisk sharedJobs).result = .error (.file ⟨"c".toList⟩ .notText) ∧
        finished {} m sharedDisk sharedJobs = 2) ∧
      (∀ m, m ≠ .write → (applyAll {} m sharedDisk sharedJobs).disk = sharedDisk) ∧
      (applyAll {} .write sharedDisk sharedJobs).disk.contents? ["o".toList, "r".toList] =
        some (.text "<!--comments:comment #-->\n# y".toList) := by
  have hs : ∀ job ∈ sharedJobs, sharedDisk.isFile job.source = true := by decide
  have hfree : sharedJobs.Pairwise fun a b => sharedDisk.place a.destination ≠ sharedDisk.place b.source := by
    decide
  have hw : writesFreely {} sharedDisk sharedJobs = true := rfl
  have hsurvey : survey {} sharedDisk sharedJobs =
      ([⟨⟨⟨"a".toList⟩, ⟨"o/r".toList⟩⟩, "x".toList, ⟨"x".toList, []⟩⟩,
        ⟨⟨⟨"b".toList⟩, ⟨"o/r".toList⟩⟩, "<!--comments:comment #-->\ny".toList,
          ⟨"<!--comments:comment #-->\n# y".toList, [⟨.comment, 1⟩]⟩⟩],
        some (.file ⟨"c".toList⟩ .notText)) := rfl
  obtain ⟨-, hends, hkept, hwritten⟩ := applyAll_modes hs hfree hw
  rw [hsurvey] at hends hwritten
  exact ⟨hs, hfree, hw, hends, hkept, hwritten.last [_] _ [] rfl (by decide) (by simp)⟩

end CommentBlocks.Job
