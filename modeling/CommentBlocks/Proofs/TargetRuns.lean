import CommentBlocks.Proofs.Runs
import CommentBlocks.Proofs.TargetNames
import CommentBlocks.Proofs.Toml.Keys

namespace CommentBlocks

open Disk

variable {d d' : Disk} {config : Path} {s : Settings} {top : Overlay} {names xs ys : List Text} {e : Failure}

namespace Settings

lemma load_of_grows (h : Grows d d') (hc : d'.contents? (d.place config) = d.contents? (d.place config))
    (hs : load d config = .ok s) : load d' config = .ok s := by
  obtain ⟨content, hr, -⟩ := exists_of_load hs
  have hfile : d.isFile config = true := isFile_iff.mpr ⟨_, read_eq_ok_iff.mp hr⟩
  have hread : d'.read config = d.read config := by rw [Disk.read, Disk.read, h.find_file hfile hc]
  rw [← hs, load, load, hread]

end Settings

namespace Command

lemma runTargets_append (s : Settings) (top : Overlay) (m : Mode) (d : Disk) (xs ys : List Text) :
    runTargets s top m d (xs ++ ys) = (runTargets s top m d xs).andThen fun d => runTargets s top m d ys := by
  induction xs generalizing d with
  | nil => rw [List.nil_append, runTargets, Report.andThen_nothing]
  | cons x xs ih => simp only [List.cons_append, runTargets, Report.andThen_assoc, ih]

lemma runSelected_of_load_error (h : Settings.load d config = .error e) (names : List Text) (top : Overlay)
    (m : Mode) : runSelected config names top m d = .fail d e := by
  rw [runSelected, h]

lemma runSelected_of_load (h : Settings.load d config = .ok s) (hne : names ≠ []) (top : Overlay) (m : Mode) :
    runSelected config names top m d = runTargets s top m d names := by
  obtain ⟨name, names, rfl⟩ := List.exists_cons_of_ne_nil hne
  simp only [runSelected, h, selected, List.isEmpty_cons, Bool.false_eq_true, if_false]

lemma runSelected_nil (h : Settings.load d config = .ok s) (hne : s.names ≠ []) (top : Overlay) (m : Mode) :
    runSelected config [] top m d = runSelected config s.names top m d := by
  simp only [runSelected, h, selected, List.isEmpty_nil, if_true, List.isEmpty_iff, hne, if_false]

/-- Two runs of targets are one run of all of them, unless the first one changes the settings; a failure of
the first one is the failure of the whole. Without names all targets run, in the order of the bytes of their
names. -/
theorem runSelected_append (config : Path) (top : Overlay) (m : Mode) (d : Disk) :
    (∀ xs ys, xs ≠ [] → ys ≠ [] →
        ((runSelected config xs top m d).disk.contents? (d.place config) = d.contents? (d.place config) →
          runSelected config (xs ++ ys) top m d =
            (runSelected config xs top m d).andThen fun d => runSelected config ys top m d) ∧
        ∀ e, (runSelected config xs top m d).result = .error e →
          runSelected config (xs ++ ys) top m d = runSelected config xs top m d) ∧
      ∀ s, Settings.load d config = .ok s → s.names ≠ [] →
        runSelected config [] top m d = runSelected config s.names top m d ∧
          (∀ name, name ∈ s.names ↔ ∃ t, s.target name = .ok t) ∧
          s.names.Pairwise fun a b => Text.utf8 a < Text.utf8 b := by
  refine ⟨fun xs ys hx hy => ?_, fun s hs hne => ?_⟩
  · cases hs : Settings.load d config with
    | error e =>
      rw [runSelected_of_load_error hs, runSelected_of_load_error hs]
      exact ⟨fun _ => (Report.andThen_of_error rfl _).symm, fun _ _ => rfl⟩
    | ok s =>
      rw [runSelected_of_load hs (List.append_ne_nil_of_left_ne_nil hx ys), runSelected_of_load hs hx,
        runTargets_append]
      refine ⟨fun hkeep => ?_, fun e he => Report.andThen_of_error he _⟩
      -- the second run reads the settings on the disk that the first one leaves
      have hs' := Settings.load_of_grows (grows_runTargets s top m d xs) hkeep hs
      cases hr : (runTargets s top m d xs).result with
      | error e => rw [Report.andThen_of_error hr, Report.andThen_of_error hr]
      | ok t => rw [Report.andThen_of_ok hr, Report.andThen_of_ok hr, runSelected_of_load hs' hy]
  · exact ⟨runSelected_nil hs hne top m, fun name => Settings.mem_names_iff_target,
      (Settings.sorted_of_load hs).imp Text.utf8_lt_of_lt⟩

def twoTargets : Settings :=
  ⟨{}, [("a".toList, ⟨none, ["x".toList], some ⟨"o".toList⟩, {}⟩),
    ("b".toList, ⟨none, ["o/*".toList], none, {}⟩)], ⟨[]⟩⟩

def twoTargetsDisk : Disk := .ofEntries []
  [(["t".toList], .file (.text
      "[targets.b]\nfiles=['o/*']\n[targets.a]\nfiles=['x']\ndest='o'\n".toList)),
   (["x".toList], .file (.text "y".toList))]

lemma load_twoTargets : Settings.load twoTargetsDisk ⟨"t".toList⟩ = .ok twoTargets := by
  have hread : twoTargetsDisk.read ⟨"t".toList⟩ =
      .ok "[targets.b]\nfiles=['o/*']\n[targets.a]\nfiles=['x']\ndest='o'\n".toList := rfl
  have hstatements : Toml.Grammar.statements? 59
        "[targets.b]\nfiles=['o/*']\n[targets.a]\nfiles=['x']\ndest='o'\n".toList =
      some [.table ["targets".toList, "b".toList], .assign ["files".toList] (.array [.string "o/*".toList]),
        .table ["targets".toList, "a".toList], .assign ["files".toList] (.array [.string "x".toList]),
        .assign ["dest".toList] (.string "o".toList)] := rfl
  rw [Settings.load, hread]
  simp only [Settings.read, Toml.parse?_of_statements? hstatements rfl (by decide)]
  rfl

theorem runSelected_append_twoTargets :
    runSelected ⟨"t".toList⟩ ["a".toList, "b".toList] {} .write twoTargetsDisk =
        ((runSelected ⟨"t".toList⟩ ["a".toList] {} .write twoTargetsDisk).andThen
          fun d => runSelected ⟨"t".toList⟩ ["b".toList] {} .write d) ∧
      runSelected ⟨"t".toList⟩ ["c".toList, "a".toList] {} .write twoTargetsDisk =
        .fail twoTargetsDisk (.unknownTarget ⟨"c".toList, ["a".toList, "b".toList]⟩) ∧
      runSelected ⟨"t".toList⟩ [] {} .write twoTargetsDisk =
        ⟨(twoTargetsDisk.put ["o".toList] .directory).put ["o".toList, "x".toList] (.file (.text "y".toList)),
          [.running "a".toList 1, .running "b".toList 1], .ok ⟨2, 0, 0⟩⟩ := by
  obtain ⟨hruns, hall⟩ := runSelected_append ⟨"t".toList⟩ {} .write twoTargetsDisk
  have hload := load_twoTargets
  have ha : runTargets twoTargets {} .write twoTargetsDisk ["a".toList] =
      ⟨(twoTargetsDisk.put ["o".toList] .directory).put ["o".toList, "x".toList] (.file (.text "y".toList)),
        [.running "a".toList 1], .ok ⟨1, 0, 0⟩⟩ := rfl
  have hab : runTargets twoTargets {} .write twoTargetsDisk ["a".toList, "b".toList] =
      ⟨(twoTargetsDisk.put ["o".toList] .directory).put ["o".toList, "x".toList] (.file (.text "y".toList)),
        [.running "a".toList 1, .running "b".toList 1], .ok ⟨2, 0, 0⟩⟩ := rfl
  have hc : runTargets twoTargets {} .write twoTargetsDisk ["c".toList] =
      .fail twoTargetsDisk (.unknownTarget ⟨"c".toList, ["a".toList, "b".toList]⟩) := rfl
  refine ⟨?_, ?_, ?_⟩
  · refine (hruns ["a".toList] ["b".toList] (by simp) (by simp)).1 ?_
    rw [runSelected_of_load hload (by simp), ha]
    rfl
  · have herror := (hruns ["c".toList] ["a".toList] (by simp) (by simp)).2
    rw [runSelected_of_load hload (by simp), hc] at herror
    exact herror _ rfl
  · rw [(hall twoTargets hload (by simp [twoTargets, Settings.names])).1]
    exact (runSelected_of_load hload (by simp [twoTargets, Settings.names]) _ _).trans hab

end Command
end CommentBlocks
