import CommentBlocks.Proofs.Modes
import CommentBlocks.Proofs.Tasks

namespace CommentBlocks

open Disk

namespace Failure

variable {e : Failure} {p : Path}

def path? : Failure → Option Path
  | file p _ => some p
  | document p _ => some p
  | settings p _ => some p
  | noSettings p => some p
  | noTargets p => some p
  | pattern _ => none
  | unknownTarget _ => none
  | notUpToDate _ => none

lemma text_infix (p : Path) (before after : String) : p.text <:+: (before ++ toString p ++ after).toList := by
  refine ⟨before.toList, after.toList, ?_⟩
  simp only [String.toList_append, toString, String.toList_ofList]

lemma infix_message_of_path? (h : e.path? = some p) : p.text <:+: e.message.toList := by
  cases e with
  | pattern | unknownTarget | notUpToDate => cases h
  | noSettings q =>
    obtain rfl : q = p := Option.some.inj h
    have hi := text_infix q "Configuration file not found: " ""
    rwa [String.append_empty] at hi
  | noTargets q =>
    obtain rfl : q = p := Option.some.inj h
    have hi := text_infix q "No targets defined in " ""
    rwa [String.append_empty] at hi
  | document q error =>
    obtain rfl : q = p := Option.some.inj h
    have hi := text_infix q "" (": " ++ error.message)
    rwa [String.empty_append, ← String.append_assoc] at hi
  | file q fault =>
    obtain rfl : q = p := Option.some.inj h
    have hi := text_infix q "I/O error at " (": " ++ fault.message)
    rwa [← String.append_assoc] at hi
  | settings q error =>
    obtain rfl : q = p := Option.some.inj h
    have hi := text_infix q "Invalid configuration in " (": " ++ error.message)
    rwa [← String.append_assoc] at hi

end Failure

namespace Job

variable {o : Options} {m : Mode} {d : Disk} {job : Job} {jobs before : List Job} {e : Failure} {s : Summary}

inductive Fails (o : Options) (d : Disk) (job : Job) : Failure → Prop where
  | unread {fault : Fault} (hr : d.read job.source = .error fault) : Fails o d job (.file job.source fault)
  | refused {content : Text} {error : InvalidCommand} (hr : d.read job.source = .ok content)
      (ht : Document.transform o content = .error error) : Fails o d job (.document job.source error)
  | noDirectory {content : Text} {outcome : Outcome} {q : Path} {fault : Fault}
      (ht : job.transformed o d = .ok (content, outcome)) (hq : job.destination.parent? = some q)
      (hm : (d.makeDirectories q).2 = .error fault) : Fails o d job (.file q fault)
  | unwritten {content : Text} {outcome : Outcome} {d' : Disk} {fault : Fault}
      (ht : job.transformed o d = .ok (content, outcome)) (hm : makeParent d job.destination = (d', .ok ()))
      (hw : d'.write job.destination outcome.content = .error fault) : Fails o d job (.file job.destination fault)

lemma Fails.exists_path (h : Fails o d job e) :
    ∃ p, e.path? = some p ∧ (p = job.source ∨ p = job.destination ∨ job.destination.parent? = some p) := by
  cases h with
  | unread | refused => exact ⟨_, rfl, Or.inl rfl⟩
  | noDirectory _ hq => exact ⟨_, rfl, Or.inr (Or.inr hq)⟩
  | unwritten => exact ⟨_, rfl, Or.inr (Or.inl rfl)⟩

lemma fails_of_transformed (h : job.transformed o d = .error e) : Fails o d job e := by
  rw [transformed] at h
  cases hr : d.read job.source with
  | error fault =>
    simp only [hr, Except.error.injEq] at h
    exact h ▸ .unread hr
  | ok content =>
    cases ht : Document.transform o content with
    | error error =>
      simp only [hr, ht, Except.error.injEq] at h
      exact h ▸ .refused hr ht
    | ok outcome => simp only [hr, ht, reduceCtorEq] at h

lemma fails_of_save {content : Text} {outcome : Outcome} (ht : job.transformed o d = .ok (content, outcome))
    (h : (save d job.destination outcome.content).2 = .error e) : Fails o d job e := by
  rw [save] at h
  split at h
  · next d' e' hm =>
    obtain rfl := Except.error.inj h
    rw [makeParent] at hm
    split at hm
    · cases hm
    · next q hq =>
      obtain ⟨d'', result, hd⟩ : ∃ d'' result, d.makeDirectories q = (d'', result) := ⟨_, _, rfl⟩
      rw [hd] at hm
      cases result with
      | ok u => cases hm
      | error fault =>
        obtain rfl := Except.error.inj (Prod.ext_iff.mp hm).2
        exact .noDirectory ht hq (congrArg Prod.snd hd)
  · next d' hm =>
    split at h
    · next fault hw =>
      obtain rfl := Except.error.inj h
      exact .unwritten ht hm hw
    · cases h

lemma apply_write_of_error (h : (job.apply o .write d).result = .error e) :
    Fails o d job e ∧ AddsDirectories d (job.apply o .write d).disk := by
  cases ht : job.transformed o d with
  | error e' =>
    rw [apply_of_error ht] at h ⊢
    obtain rfl := Except.error.inj h
    exact ⟨fails_of_transformed ht, AddsDirectories.refl d⟩
  | ok x =>
    obtain ⟨content, outcome⟩ := x
    rw [apply_of_ok ht] at h ⊢
    cases hf : (Finding.mk job content outcome).isWritten with
    | false =>
      rw [deliver_write_of_not_written hf] at h
      cases h
    | true =>
      rw [deliver_write_of_written hf] at h ⊢
      cases hs : (save d job.destination outcome.content).2 with
      | ok u =>
        rw [hs] at h
        cases h
      | error e' =>
        rw [hs] at h
        obtain rfl := Except.error.inj h
        exact ⟨fails_of_save ht hs, addsDirectories_of_save hs⟩

lemma applyAll_append (o : Options) (m : Mode) (d : Disk) (jobs later : List Job) :
    applyAll o m d (jobs ++ later) = (applyAll o m d jobs).andThen fun d => applyAll o m d later := by
  simp only [← Task.applyAll_map, List.map_append, Task.applyAll_append]

lemma applyAll_of_failing (hb : (applyAll o m d before).result = .ok s)
    (hj : (job.apply o m (applyAll o m d before).disk).result = .error e) (later : List Job) :
    applyAll o m d (before ++ job :: later) =
      ⟨(job.apply o m (applyAll o m d before).disk).disk,
        (applyAll o m d before).notices ++ (job.apply o m (applyAll o m d before).disk).notices, .error e⟩ := by
  rw [applyAll_append, Report.andThen_of_ok hb, applyAll_cons, Report.andThen_of_error hj, hj]
  rfl

lemma exists_failing (h : (applyAll o m d jobs).result = .error e) :
    ∃ before job later s, jobs = before ++ job :: later ∧ before.length = finished o m d jobs ∧
      (applyAll o m d before).result = .ok s ∧ (job.apply o m (applyAll o m d before).disk).result = .error e := by
  induction jobs generalizing d with
  | nil => cases h
  | cons job jobs ih =>
    rw [applyAll_cons] at h
    cases hr : (job.apply o m d).result with
    | error e' =>
      rw [Report.andThen_of_error hr] at h
      exact ⟨[], job, jobs, {}, rfl, by simp only [finished, hr, List.length_nil], rfl, h⟩
    | ok t =>
      rw [Report.andThen_of_ok hr] at h
      cases hn : (applyAll o m (job.apply o m d).disk jobs).result with
      | ok u =>
        simp only [hn, Except.map, reduceCtorEq] at h
      | error e' =>
        simp only [hn, Except.map, Except.error.injEq] at h
        subst h
        obtain ⟨before, failing, later, s, rfl, hlen, hb, hj⟩ := ih hn
        have hcons : applyAll o m d (job :: before) = (job.apply o m d).andThen fun d => applyAll o m d before :=
          applyAll_cons o m d job before
        rw [Report.andThen_of_ok hr, hb] at hcons
        refine ⟨job :: before, failing, later, t.add s, rfl, ?_, ?_, ?_⟩
        · simp only [finished, hr, List.length_cons, hlen]
        · rw [hcons]
          rfl
        · rw [hcons]
          exact hj

/-- A run that writes and fails has carried out the jobs before the one that fails, and has not got to those
after it. The failing job leaves all files as they are. Its failure is that of one of its steps, and the
message has the path of its source, of its destination or of the directory of its destination. -/
theorem applyAll_stops (h : (applyAll o .write d jobs).result = .error e) :
    ∃ before job later s, jobs = before ++ job :: later ∧ before.length = finished o .write d jobs ∧
      (applyAll o .write d before).result = .ok s ∧
      Fails o (applyAll o .write d before).disk job e ∧
      AddsDirectories (applyAll o .write d before).disk (applyAll o .write d jobs).disk ∧
      (∀ later', applyAll o .write d (before ++ job :: later') = applyAll o .write d jobs) ∧
      ∃ p, e.path? = some p ∧ (p = job.source ∨ p = job.destination ∨ job.destination.parent? = some p) ∧
        p.text <:+: e.message.toList := by
  obtain ⟨before, job, later, s, rfl, hlen, hb, hj⟩ := exists_failing h
  obtain ⟨hfails, hadds⟩ := apply_write_of_error hj
  obtain ⟨p, hp, hnames⟩ := hfails.exists_path
  refine ⟨before, job, later, s, rfl, hlen, hb, hfails, ?_, fun later' => ?_, p, hp, hnames,
    Failure.infix_message_of_path? hp⟩
  · rw [applyAll_of_failing hb hj]
    exact hadds
  · rw [applyAll_of_failing hb hj, applyAll_of_failing hb hj]

def blockedDisk : Disk := .ofEntries []
  [(["a".toList], .file (.text "x".toList)), (["f".toList], .file (.text "y".toList))]

def blockedJobs : List Job :=
  [⟨⟨"a".toList⟩, ⟨"b".toList⟩⟩, ⟨⟨"a".toList⟩, ⟨"f/c".toList⟩⟩, ⟨⟨"f".toList⟩, ⟨"g".toList⟩⟩]

theorem applyAll_stops_blocked :
    (applyAll {} .write blockedDisk blockedJobs).result = .error (.file ⟨"f".toList⟩ .alreadyExists) ∧
      ∃ before job later s, blockedJobs = before ++ job :: later ∧ before.length = 1 ∧
        (applyAll {} .write blockedDisk before).result = .ok s ∧
        AddsDirectories (applyAll {} .write blockedDisk before).disk
          (applyAll {} .write blockedDisk blockedJobs).disk := by
  have h : (applyAll {} .write blockedDisk blockedJobs).result = .error (.file ⟨"f".toList⟩ .alreadyExists) := rfl
  obtain ⟨before, job, later, s, hsplit, hlen, hb, -, hadds, -⟩ := applyAll_stops h
  have hone : finished {} .write blockedDisk blockedJobs = 1 := rfl
  exact ⟨h, before, job, later, s, hsplit, hlen.trans hone, hb, hadds⟩

end Job
end CommentBlocks
