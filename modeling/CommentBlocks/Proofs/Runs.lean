import CommentBlocks.Command
import CommentBlocks.Proofs.Saving

namespace CommentBlocks

open Disk

variable {o : Options} {m : Mode} {d : Disk} {job : Job} {jobs : List Job} {l : Location}

namespace Report

variable {r : Report} {next : Disk → Report}

lemma andThen_eq_ok_iff {u : Summary} :
    (r.andThen next).result = .ok u ↔
      ∃ s t, r.result = .ok s ∧ (next r.disk).result = .ok t ∧ u = s.add t := by
  cases hr : r.result with
  | error e => simp [andThen_of_error hr, hr]
  | ok s =>
    rw [andThen_of_ok hr]
    cases (next r.disk).result <;> simp [Except.map, eq_comm]

lemma andThen_assoc (r : Report) (next next' : Disk → Report) :
    (r.andThen next).andThen next' = r.andThen fun d => (next d).andThen next' := by
  cases hr : r.result with
  | error e => rw [andThen_of_error hr, andThen_of_error hr, andThen_of_error hr]
  | ok s =>
    rw [andThen_of_ok hr, andThen_of_ok hr]
    cases hn : (next r.disk).result with
    | error e => rw [andThen_of_error hn, andThen_of_error (e := e) rfl, hn]
    | ok t =>
      rw [andThen_of_ok hn, andThen_of_ok (s := s.add t) rfl]
      cases (next' (next r.disk).disk).result <;> simp [Except.map, Summary.add_assoc]

lemma andThen_nothing (d : Disk) (next : Disk → Report) : andThen ⟨d, [], .ok {}⟩ next = next d := by
  rw [andThen_of_ok rfl]
  cases h : (next d).result <;> simp [Except.map, Summary.add, ← h]

lemma grows_andThen (h : Grows d r.disk) (hn : ∀ d, Grows d (next d).disk) : Grows d (r.andThen next).disk := by
  cases hr : r.result with
  | error e => rwa [andThen_of_error hr]
  | ok s =>
    rw [andThen_of_ok hr]
    exact h.trans (hn r.disk)

end Report

namespace Job

lemma deliver_of_ne_write (hm : m ≠ .write) (d : Disk) (job : Job) (content : Text) (outcome : Outcome) :
    ∃ ns, job.deliver m d content outcome = ⟨d, ns, .ok (summary content outcome)⟩ := by
  cases m with
  | write => exact absurd rfl hm
  | _ => exact ⟨_, rfl⟩

lemma disk_apply_of_ne_write (hm : m ≠ .write) (o : Options) (d : Disk) (job : Job) :
    (job.apply o m d).disk = d := by
  rw [apply]
  split
  · rfl
  · next content outcome _ =>
    obtain ⟨ns, hd⟩ := deliver_of_ne_write hm d job content outcome
    rw [hd]
    rfl

lemma disk_applyAll_of_ne_write (hm : m ≠ .write) (o : Options) (d : Disk) (jobs : List Job) :
    (applyAll o m d jobs).disk = d := by
  induction jobs with
  | nil => rfl
  | cons job jobs ih =>
    rw [applyAll_cons]
    cases hr : (job.apply o m d).result with
    | error e => rw [Report.andThen_of_error hr, disk_apply_of_ne_write hm]
    | ok s => rw [Report.andThen_of_ok hr, disk_apply_of_ne_write hm, ih]

lemma disk_deliver (m : Mode) (d : Disk) (job : Job) (content : Text) (outcome : Outcome) :
    (job.deliver m d content outcome).disk = d ∨
      (job.deliver m d content outcome).disk = (save d job.destination outcome.content).1 := by
  cases m with
  | write =>
    simp only [deliver]
    split
    · exact Or.inr rfl
    · exact Or.inl rfl
  | _ => exact Or.inl rfl

lemma disk_apply (o : Options) (m : Mode) (d : Disk) (job : Job) :
    (job.apply o m d).disk = d ∨ ∃ t, (job.apply o m d).disk = (save d job.destination t).1 := by
  rw [apply]
  split
  · exact Or.inl rfl
  · next content outcome _ => exact (disk_deliver m d job content outcome).imp_right fun h => ⟨_, h⟩

lemma grows_apply (o : Options) (m : Mode) (d : Disk) (job : Job) : Grows d (job.apply o m d).disk := by
  rcases disk_apply o m d job with h | ⟨t, h⟩
  · rw [h]
    exact Grows.refl d
  · rw [h]
    exact grows_save d job.destination t

lemma contents?_apply_of_ne (h : l ≠ d.place job.destination) (o : Options) (m : Mode) :
    (job.apply o m d).disk.contents? l = d.contents? l := by
  rcases disk_apply o m d job with hd | ⟨t, hd⟩
  · rw [hd]
  · rw [hd, contents?_save_of_ne h]

lemma grows_applyAll (o : Options) (m : Mode) (d : Disk) (jobs : List Job) :
    Grows d (applyAll o m d jobs).disk := by
  induction jobs generalizing d with
  | nil => exact Grows.refl d
  | cons job jobs ih => exact Report.grows_andThen (grows_apply o m d job) ih

end Job

namespace Command

lemma grows_runTarget (s : Settings) (top : Overlay) (m : Mode) (d : Disk) (name : Text) :
    Grows d (runTarget s top m d name).disk := by
  rw [runTarget]
  split
  · exact Grows.refl d
  · split
    · exact Grows.refl d
    · exact Job.grows_applyAll _ m d _

lemma grows_runTargets (s : Settings) (top : Overlay) (m : Mode) (d : Disk) (names : List Text) :
    Grows d (runTargets s top m d names).disk := by
  induction names generalizing d with
  | nil => exact Grows.refl d
  | cons name names ih => exact Report.grows_andThen (grows_runTarget s top m d name) ih

end Command
end CommentBlocks
