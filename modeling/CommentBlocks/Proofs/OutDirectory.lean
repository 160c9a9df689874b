import CommentBlocks.Proofs.Modes
import CommentBlocks.Proofs.Routes

namespace CommentBlocks

open Disk

namespace Disk

variable {d d' : Disk} {p q : Path} {l m : Location} {ps : List Text} {t : Text}

lemma locate_of_slot (h : d.slot p = .ok (.named l)) : d.locate p = .ok l := by
  obtain ⟨rfl, -⟩ := slot_eq_named h
  rw [slot] at h
  split at h
  · cases h
  next hp =>
    split at h
    · cases h
    next k hk =>
      split at h
      · cases h
      · cases h
      next hdir =>
        obtain ⟨front, last, hfront⟩ : ∃ front last, p.pieces = front ++ [last] :=
          ⟨_, _, (List.dropLast_concat_getLast (pieces_ne_nil p)).symm⟩
        rw [hfront, List.dropLast_concat] at hk
        refine locate_eq_ok_iff.mpr ⟨hp, ?_⟩
        rw [place, hfront, walk_append_eq_ok_iff, List.foldl_concat, ← walk_eq_foldl hk]
        exact ⟨k, hk, walk_cons_eq_ok_iff.mpr ⟨hdir, rfl⟩⟩

lemma find_of_write (h : d.write p t = .ok d') : d'.find p = .ok (.file (.text t)) := by
  have hg := grows_of_write h
  obtain ⟨hl, hnamed, hput⟩ := write_eq_ok h
  have hloc : d.locate p = .ok (d.place p) := by
    rw [write] at h
    split at h
    · cases h
    · cases h
    · next l hs =>
      obtain ⟨rfl, -⟩ := slot_eq_named hs
      exact locate_of_slot hs
  rw [find_eq_ok_iff, hg.place]
  refine ⟨hg.locate hloc, ?_⟩
  rw [hput, lookup?_put_self (ne_nil_of_lookup? hl) hnamed]

lemma lookup?_of_walk (h : d.walk l ps = .ok m) (hl : ∀ k, k <+: l → k ≠ l → d.lookup? k = some .directory) :
    ∀ k, k <+: m → k ≠ m → d.lookup? k = some .directory := by
  induction ps generalizing l with
  | nil =>
    obtain rfl := Except.ok.inj h
    exact hl
  | cons piece ps ih =>
    obtain ⟨hdir, hw⟩ := walk_cons_eq_ok_iff.mp h
    have hall : ∀ k, k <+: l → d.lookup? k = some .directory := by
      intro k hk
      by_cases hkl : k = l
      · exact hkl ▸ hdir
      · exact hl k hk hkl
    refine ih hw fun k hk hne => ?_
    rw [enter] at hk hne
    cases hc : Path.Component.ofPiece? piece with
    | none =>
      rw [hc] at hk
      exact hall k hk
    | some c =>
      rw [hc] at hk hne
      rcases Path.Component.up_or_name_of_ofPiece? hc with rfl | rfl
      · exact hall k (hk.trans (List.dropLast_prefix l))
      · exact hall k ((List.prefix_concat_iff.mp hk).resolve_left hne)

lemma exists_fileName_of_isFile (h : d.isFile p = true) (ha : p.isAbsolute = true) :
    ∃ n, p.fileName? = some n := by
  obtain ⟨c, hf⟩ := isFile_iff.mp h
  obtain ⟨hloc, hfile⟩ := find_eq_ok_iff.mp hf
  obtain ⟨-, hw⟩ := locate_eq_ok_iff.mp hloc
  obtain ⟨front, last, hfront⟩ : ∃ front last, p.pieces = front ++ [last] :=
    ⟨_, _, (List.dropLast_concat_getLast (pieces_ne_nil p)).symm⟩
  rw [hfront, walk_append_eq_ok_iff, start, if_pos ha] at hw
  obtain ⟨k, hk, hlast⟩ := hw
  obtain ⟨hdir, hplace⟩ := walk_cons_eq_ok_iff.mp hlast
  have habove := lookup?_of_walk hk fun k hk hne => absurd (List.prefix_nil.mp hk) hne
  rw [← Except.ok.inj hplace, enter] at hfile
  cases hc : Path.Component.ofPiece? last with
  | none =>
    rw [hc, hdir] at hfile
    cases hfile
  | some c =>
    rw [hc] at hfile
    rcases Path.Component.up_or_name_of_ofPiece? hc with rfl | rfl
    · have hup : d.lookup? k.dropLast = some .directory := by
        by_cases hn : k.dropLast = k
        · exact hn.symm ▸ hdir
        · exact habove _ (List.dropLast_prefix k) hn
      rw [hup] at hfile
      cases hfile
    · refine ⟨last, ?_⟩
      rw [Path.fileName?, Path.components_eq_filterMap, hfront]
      simp [hc]

end Disk

namespace Path

variable {p : Path} {n : Text}

lemma isName_of_fileName? (h : p.fileName? = some n) : IsName n := by
  rw [fileName?] at h
  split at h
  · next m hm =>
    obtain rfl := Option.some.inj h
    have hmem := List.mem_of_getLast? hm
    rw [components_eq_filterMap, List.mem_append] at hmem
    rcases hmem with hmem | hmem
    · split_ifs at hmem <;> simp at hmem
    · obtain ⟨piece, hp, hc⟩ := List.mem_filterMap.mp hmem
      exact isName_of_ofPiece? (Text.sep_not_mem_of_mem_cut hp) hc
  · cases h

end Path

namespace Job

variable {o : Options} {d : Disk} {p q dir : Path} {job : Job} {jobs : List Job} {s : Summary} {t : Text}

def resultNames (p : Path) : List Text := if p.isAbsolute then p.fileName?.toList else p.route.names

lemma place_toDirectory (dir : Path) (hf : d.isFile p = true) (hup : p.isAbsolute = false → p.route.ups = 0) :
    d.place (toDirectory dir p).destination = d.place dir ++ resultNames p ∧ resultNames p ≠ [] := by
  rw [toDirectory, resultNames]
  split_ifs with ha
  · obtain ⟨n, hn⟩ := exists_fileName_of_isFile hf ha
    obtain ⟨hslash, hc⟩ := Path.isName_of_fileName? hn
    rw [hn, place_join d dir (Path.isAbsolute_of_not_mem hslash), Path.steps_of_not_mem hslash, hc]
    exact ⟨rfl, List.cons_ne_nil _ _⟩
  · have hrel := Bool.eq_false_iff.mpr ha
    refine ⟨by rw [place_join_eq_goal d dir hrel, Route.goal_of_ups_eq_zero (hup hrel)], fun hnames => ?_⟩
    -- without a name the path would lead to the working directory
    have hplace : d.place p = d.working := by
      rw [place_eq_goal d hrel, Route.goal_of_ups_eq_zero (hup hrel), hnames, List.append_nil]
    obtain ⟨c, hfind⟩ := isFile_iff.mp hf
    obtain ⟨hloc, hfile⟩ := find_eq_ok_iff.mp hfind
    obtain ⟨first, rest, hpieces⟩ := Path.exists_pieces_eq p
    have hw := (locate_eq_ok_iff.mp hloc).2
    rw [hpieces, Disk.start, if_neg ha, walk_cons_eq_ok_iff] at hw
    rw [hplace, hw.1] at hfile
    cases hfile

lemma place_toDirectory_ne (hfp : d.isFile p = true) (hup : p.isAbsolute = false → p.route.ups = 0)
    (hq : ¬ d.Below dir q) : d.place (toDirectory dir p).destination ≠ d.place q := by
  obtain ⟨hplace, hne⟩ := place_toDirectory dir hfp hup
  intro h
  rw [hplace] at h
  refine hq ⟨⟨_, h⟩, fun he => hne ?_⟩
  rwa [he, List.append_right_eq_self] at h

lemma isAbsolute_of_place_toDirectory (hfp : d.isFile p = true) (hfq : d.isFile q = true)
    (hup : p.isAbsolute = false → p.route.ups = 0) (huq : q.isAbsolute = false → q.route.ups = 0)
    (h : d.place (toDirectory dir p).destination = d.place (toDirectory dir q).destination)
    (hne : d.place p ≠ d.place q) : p.isAbsolute = true ∨ q.isAbsolute = true := by
  by_contra hrel
  simp only [not_or, Bool.not_eq_true] at hrel
  obtain ⟨hp, hq⟩ := hrel
  rw [(place_toDirectory dir hfp hup).1, (place_toDirectory dir hfq huq).1, resultNames, resultNames, hp, hq] at h
  rw [place_eq_goal d hp, place_eq_goal d hq, Route.goal_of_ups_eq_zero (hup hp),
    Route.goal_of_ups_eq_zero (huq hq)] at hne
  exact hne (congrArg (d.working ++ ·) (List.append_cancel_left h))

lemma writesFreely_of_ok (h : (applyAll o .write d jobs).result = .ok s) : writesFreely o d jobs = true := by
  induction jobs generalizing d s with
  | nil => rfl
  | cons job jobs ih =>
    rw [applyAll_cons] at h
    obtain ⟨u, v, hu, hv, -⟩ := Report.andThen_eq_ok_iff.mp h
    rw [writesFreely]
    cases ht : job.transformed o d with
    | error e => rfl
    | ok x =>
      obtain ⟨content, outcome⟩ := x
      rw [apply_of_ok ht] at hu hv
      have hd : (job.deliver .write d content outcome).result = .ok u := hu
      simp only [hd, Except.isOk, Except.toBool, Bool.true_and]
      exact ih hv

lemma find_save (h : (save d p t).2 = .ok ()) : (save d p t).1.find p = .ok (.file (.text t)) := by
  rw [save] at h ⊢
  split
  · next he => simp only [he, reduceCtorEq] at h
  · next d' he =>
    simp only [he] at h
    split
    · next hw => simp only [hw, reduceCtorEq] at h
    · next d'' hw => exact find_of_write hw

lemma isFile_destination (hin : ∀ job ∈ jobs, job.isInPlace = false)
    (h : (applyAll o .write d jobs).result = .ok s) :
    ∀ job ∈ jobs, (applyAll o .write d jobs).disk.isFile job.destination = true := by
  induction jobs generalizing d s with
  | nil => simp
  | cons job jobs ih =>
    obtain ⟨hjob, hjobs⟩ := List.forall_mem_cons.mp hin
    rw [applyAll_cons] at h ⊢
    obtain ⟨u, v, hu, hv, -⟩ := Report.andThen_eq_ok_iff.mp h
    rw [Report.andThen_of_ok hu]
    refine List.forall_mem_cons.mpr ⟨(grows_applyAll o .write _ jobs).isFile ?_, ih hjobs hv⟩
    cases ht : job.transformed o d with
    | error e =>
      rw [apply_of_error ht] at hu
      cases hu
    | ok x =>
      obtain ⟨content, outcome⟩ := x
      have hw : (Finding.mk job content outcome).isWritten = true := by simp [Finding.isWritten, hjob]
      rw [apply_of_ok ht, deliver_write_of_written hw] at hu ⊢
      cases hs : (save d job.destination outcome.content).2 with
      | error e =>
        rw [hs] at hu
        cases hu
      | ok y => exact isFile_iff.mpr ⟨_, find_save hs⟩

lemma map_job_survey (h : verdict (survey o d jobs) = .ok s) : (survey o d jobs).1.map Finding.job = jobs := by
  have hs := surveyed_survey o d jobs
  cases hstop : (survey o d jobs).2 with
  | none => rw [hs.first, hs.all hstop, List.take_length]
  | some e =>
    rw [← Prod.eta (survey o d jobs), hstop] at h
    cases h

section Apart

variable (hs : ∀ job ∈ jobs, d.isFile job.source = true)
  (haway : ∀ a ∈ jobs, ∀ b ∈ jobs, d.place a.destination ≠ d.place b.source)
  (hok : (applyAll o .write d jobs).result = .ok s)

include hs haway hok

lemma survey_of_apart :
    (survey o d jobs).1.map Finding.job = jobs ∧
      Written d (applyAll o .write d jobs).disk (survey o d jobs).1 := by
  obtain ⟨hends, hwritten⟩ := applyAll_write hs (List.pairwise_of_forall_mem_list haway) (writesFreely_of_ok hok)
  exact ⟨map_job_survey (hends.1.symm.trans hok), hwritten⟩

lemma read_source_of_apart (hjob : job ∈ jobs) :
    (applyAll o .write d jobs).disk.read job.source = d.read job.source := by
  obtain ⟨hjobs, hwritten⟩ := survey_of_apart hs haway hok
  have hkept := hwritten.untouched (d.place job.source) fun f hf _ =>
    haway f.job (hjobs ▸ List.mem_map_of_mem hf) job hjob
  rw [Disk.read, Disk.read, hwritten.grows.find_file (hs job hjob) hkept]

lemma read_destination_of_apart {before later : List Job} (hsplit : jobs = before ++ job :: later)
    (hlater : ∀ b ∈ later, d.place b.destination ≠ d.place job.destination) :
    ∃ content outcome, job.transformed o d = .ok (content, outcome) ∧
      (applyAll o .write d jobs).disk.read job.destination = .ok outcome.content := by
  obtain ⟨hjobs, hwritten⟩ := survey_of_apart hs haway hok
  have hplaces : ∀ a ∈ jobs, a.isInPlace = false := fun a ha =>
    Bool.eq_false_iff.mpr fun h => haway a ha a ha (place_eq_of_same h d).symm
  have hjob : job ∈ jobs := hsplit ▸ List.mem_append_right _ List.mem_cons_self
  obtain ⟨fs, gs, hsurvey, -, hgs⟩ := List.map_eq_append_iff.mp (hjobs.trans hsplit)
  obtain ⟨f, gs, rfl, rfl, rfl⟩ := List.map_eq_cons_iff.mp hgs
  have hlast := hwritten.last fs f gs hsurvey (by simp [Finding.isWritten, hplaces _ hjob])
    fun g hg _ => hlater g.job (List.mem_map_of_mem hg)
  have hfound := (surveyed_survey o d jobs).found f (hsurvey ▸ List.mem_append_right _ List.mem_cons_self)
  refine ⟨f.content, f.outcome, hfound, read_eq_ok_iff.mpr ?_⟩
  obtain ⟨c, hc⟩ := isFile_iff.mp (isFile_destination hplaces hok f.job hjob)
  have hplace := contents?_eq_some_iff.mpr (find_eq_ok_iff.mp hc).2
  rw [hwritten.grows.place, hlast, Option.some.injEq] at hplace
  rw [hplace, hc]

end Apart

end Job

namespace Command

variable {config dir : Path} {files : List Path} {top : Overlay} {d : Disk} {s : Summary}

/-- A run with results in another directory leaves the files that were named as they are. The result of a file
is there in the end, unless a later file comes to the same place; and then one of the two was named by an
absolute path. -/
theorem processFiles_toDirectory (hfiles : ∀ p ∈ files, d.isFile p = true) (hout : ∀ p ∈ files, ¬ d.Below dir p)
    (hups : ∀ p ∈ files, p.isAbsolute = false → p.route.ups = 0)
    (hok : (processFiles config files (some dir) top .write d).result = .ok s) :
    ∃ settings, Settings.loadIfPresent d config = .ok settings ∧
      (∀ p ∈ files, (processFiles config files (some dir) top .write d).disk.read p = d.read p) ∧
      (∀ before p later, files = before ++ p :: later →
        (∀ q ∈ later, d.place (Job.toDirectory dir q).destination ≠ d.place (Job.toDirectory dir p).destination) →
        ∃ content outcome, d.read p = .ok content ∧
          Document.transform (settings.resolve none top) content = .ok outcome ∧
          (processFiles config files (some dir) top .write d).disk.read (Job.toDirectory dir p).destination =
            .ok outcome.content) ∧
      ∀ p ∈ files, ∀ q ∈ files, d.place p ≠ d.place q →
        d.place (Job.toDirectory dir p).destination = d.place (Job.toDirectory dir q).destination →
        p.isAbsolute = true ∨ q.isAbsolute = true := by
  rw [processFiles] at hok ⊢
  cases hset : Settings.loadIfPresent d config with
  | error e =>
    rw [hset] at hok
    cases hok
  | ok settings =>
    have hof : Job.ofFile (some dir) = Job.toDirectory dir := rfl
    simp only [hset, hof] at hok ⊢
    have hs : ∀ job ∈ files.map (Job.toDirectory dir), d.isFile job.source = true := List.forall_mem_map.mpr hfiles
    have haway : ∀ a ∈ files.map (Job.toDirectory dir), ∀ b ∈ files.map (Job.toDirectory dir),
        d.place a.destination ≠ d.place b.source :=
      List.forall_mem_map.mpr fun p hp => List.forall_mem_map.mpr fun q hq =>
        Job.place_toDirectory_ne (hfiles p hp) (hups p hp) (hout q hq)
    refine ⟨settings, rfl, fun p hp => ?_, fun before p later hsplit hlater => ?_, fun p hp q hq hne h => ?_⟩
    · exact Job.read_source_of_apart hs haway hok (List.mem_map_of_mem hp)
    · obtain ⟨content, outcome, ht, hread⟩ := Job.read_destination_of_apart hs haway hok
        (by rw [hsplit, List.map_append, List.map_cons]) (List.forall_mem_map.mpr hlater)
      obtain ⟨hcontent, htransform⟩ := Job.transformed_eq_ok_iff.mp ht
      exact ⟨content, outcome, hcontent, htransform, hread⟩
    · exact Job.isAbsolute_of_place_toDirectory (hfiles p hp) (hfiles q hq) (hups p hp) (hups q hq) h hne

def namedDisk : Disk := .ofEntries ["x".toList]
  [(["x".toList], .directory), (["x".toList, "b".toList], .directory),
   (["x".toList, "a".toList], .file (.text "one".toList)), (["y".toList], .directory),
   (["y".toList, "a".toList], .file (.text "<!--comments:comment #-->\ntwo".toList))]

def namedFiles : List Path := [⟨"/y/a".toList⟩, ⟨"b/../a".toList⟩]

theorem processFiles_toDirectory_named :
    ((∀ p ∈ namedFiles, namedDisk.isFile p = true) ∧ (∀ p ∈ namedFiles, ¬ namedDisk.Below ⟨"../dist".toList⟩ p) ∧
        (∀ p ∈ namedFiles, p.isAbsolute = false → p.route.ups = 0) ∧
        (processFiles ⟨"toggler.toml".toList⟩ namedFiles (some ⟨"../dist".toList⟩) {} .write namedDisk).result =
          .ok ⟨2, 1, 1⟩) ∧
      (∀ p ∈ namedFiles,
        (processFiles ⟨"toggler.toml".toList⟩ namedFiles (some ⟨"../dist".toList⟩) {} .write
          namedDisk).disk.read p = namedDisk.read p) ∧
      (processFiles ⟨"toggler.toml".toList⟩ namedFiles (some ⟨"../dist".toList⟩) {} .write namedDisk).disk.read
        ⟨"../dist/b/../a".toList⟩ = .ok "one".toList := by
  have hfiles : ∀ p ∈ namedFiles, namedDisk.isFile p = true := by decide
  have hout : ∀ p ∈ namedFiles, ¬ namedDisk.Below ⟨"../dist".toList⟩ p := by decide
  have hups : ∀ p ∈ namedFiles, p.isAbsolute = false → p.route.ups = 0 := by decide
  have hok : (processFiles ⟨"toggler.toml".toList⟩ namedFiles (some ⟨"../dist".toList⟩) {} .write
      namedDisk).result = .ok ⟨2, 1, 1⟩ := rfl
  obtain ⟨settings, hset, hkept, hlast, -⟩ := processFiles_toDirectory hfiles hout hups hok
  obtain ⟨content, outcome, hread, ht, hresult⟩ := hlast [⟨"/y/a".toList⟩] ⟨"b/../a".toList⟩ [] rfl (by simp)
  obtain rfl : "one".toList = content := Except.ok.inj hread
  obtain rfl : {} = settings := Except.ok.inj hset
  obtain rfl : ⟨"one".toList, []⟩ = outcome := Except.ok.inj ht
  exact ⟨⟨hfiles, hout, hups, hok⟩, hkept, hresult⟩

def sameName : List Path := [⟨"/x/a".toList⟩, ⟨"/y/a".toList⟩]

theorem not_processFiles_toDirectory_sameName :
    ((∀ p ∈ sameName, namedDisk.isFile p = true) ∧
        sameName.Pairwise (fun p q => namedDisk.place p ≠ namedDisk.place q) ∧
        (∀ p ∈ sameName, ¬ namedDisk.Below ⟨"../dist".toList⟩ p) ∧
        (processFiles ⟨"toggler.toml".toList⟩ sameName (some ⟨"../dist".toList⟩) {} .write namedDisk).result =
          .ok ⟨2, 1, 1⟩) ∧
      ∃ p ∈ sameName, ∃ content outcome, namedDisk.read p = .ok content ∧
        Document.transform {} content = .ok outcome ∧
        (processFiles ⟨"toggler.toml".toList⟩ sameName (some ⟨"../dist".toList⟩) {} .write namedDisk).disk.read
          (Job.toDirectory ⟨"../dist".toList⟩ p).destination ≠ .ok outcome.content := by
  have hread : (processFiles ⟨"toggler.toml".toList⟩ sameName (some ⟨"../dist".toList⟩) {} .write
      namedDisk).disk.read ⟨"../dist/a".toList⟩ = .ok "<!--comments:comment #-->\n# two".toList := rfl
  refine ⟨⟨by decide, by decide, by decide, rfl⟩, ⟨"/x/a".toList⟩, by decide, "one".toList, ⟨"one".toList, []⟩,
    rfl, rfl, ?_⟩
  have hdest : (Job.toDirectory ⟨"../dist".toList⟩ ⟨"/x/a".toList⟩).destination = ⟨"../dist/a".toList⟩ := by decide
  rw [hdest, hread]
  decide

end Command
end CommentBlocks
