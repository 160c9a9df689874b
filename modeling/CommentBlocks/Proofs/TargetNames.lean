import CommentBlocks.Command
import CommentBlocks.Proofs.Shapes

namespace CommentBlocks.Settings

open Toml

variable {s s' : Settings} {ts : List (Text × Target)} {v : Value} {name : Text} {root config : Path} {es : Table}
  {content : Text} {d : Disk}

def Sorted (s : Settings) : Prop := s.names.Pairwise (· < ·)

lemma map_fst_insertTarget (name : Text) (t : Target) (ts : List (Text × Target)) :
    (insertTarget name t ts).map Prod.fst = Disk.insertName name (ts.map Prod.fst) := by
  induction ts with
  | nil => rfl
  | cons u ts ih =>
    simp only [insertTarget, List.map_cons, Disk.insertName, eq_comm (a := name)]
    split_ifs with h
    · rw [List.map_cons, h]
    · rfl
    · rw [List.map_cons, ih]

lemma pairwise_of_decodeTargets (h : decodeTargets v = .ok ts) : (ts.map Prod.fst).Pairwise (· < ·) := by
  cases v with
  | table es =>
    refine foldlM_preserves (P := fun ts => (ts.map Prod.fst).Pairwise (· < ·))
      (fun us e _ us' hus he => ?_) .nil h
    obtain ⟨t, -, ht⟩ := exists_of_bind_eq_ok he
    obtain rfl := Except.ok.inj ht
    rw [map_fst_insertTarget]
    exact Disk.pairwise_insertName hus
  | _ => cases h

lemma sorted_of_settingsEntry {e : Text × Value} (hs : s.Sorted) (h : settingsEntry s e = .ok s') : s'.Sorted := by
  rw [settingsEntry] at h
  split_ifs at h
  · obtain ⟨o, -, ho⟩ := exists_of_bind_eq_ok h
    obtain rfl := Except.ok.inj ho
    exact hs
  · obtain ⟨ts, hts, ho⟩ := exists_of_bind_eq_ok h
    obtain rfl := Except.ok.inj ho
    exact pairwise_of_decodeTargets hts

lemma sorted_of_decode (h : decode root es = .ok s) : s.Sorted := by
  have hstart : Sorted { root := root } := List.Pairwise.nil
  exact foldlM_preserves (fun _ _ _ _ => sorted_of_settingsEntry) hstart h

lemma sorted_of_read (h : read root content = .ok s) : s.Sorted := by
  rw [read] at h
  cases hp : Toml.parse? content with
  | none => simp only [hp, reduceCtorEq] at h
  | some es =>
    rw [hp] at h
    exact sorted_of_decode (mapError_eq_ok_iff.mp h)

lemma exists_of_load (h : load d config = .ok s) :
    ∃ content, d.read config = .ok content ∧ read config content = .ok s := by
  rw [load] at h
  cases hr : d.read config with
  | error f => cases f <;> simp only [hr, reduceCtorEq] at h
  | ok content =>
    rw [hr] at h
    exact ⟨content, rfl, mapError_eq_ok_iff.mp h⟩

lemma sorted_of_load (h : load d config = .ok s) : s.Sorted := by
  obtain ⟨content, -, hs⟩ := exists_of_load h
  exact sorted_of_read hs

lemma mem_names_iff_target : name ∈ s.names ↔ ∃ t, s.target name = .ok t := by
  rw [target]
  cases hf : s.targets.find? fun e => e.1 = name with
  | none =>
    simp only [reduceCtorEq, exists_false, iff_false, names, List.mem_map, not_exists, not_and]
    intro e he hn
    exact List.find?_eq_none.mp hf e he (decide_eq_true hn)
  | some e =>
    have hn : e.1 = name := by simpa using List.find?_some hf
    simp only [Except.ok.injEq, exists_eq', iff_true, names]
    exact List.mem_map.mpr ⟨e, List.mem_of_find?_eq_some hf, hn⟩

end CommentBlocks.Settings
