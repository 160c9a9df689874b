import CommentBlocks.Disk
import Mathlib.Tactic.Common

namespace CommentBlocks.Disk

variable {d d' d'' : Disk} {p : Path} {l m : Location} {ps : List Text} {e : Entry} {c : Contents}

def ofEntries (working : Location) (entries : List (Location × Entry)) : Disk :=
  entries.foldr (fun (l, e) d => d.put l e) ⟨[], working⟩

def contents? (d : Disk) (l : Location) : Option Contents :=
  match d.lookup? l with
  | some (.file c) => some c
  | _ => none

lemma contents?_eq_some_iff : d.contents? l = some c ↔ d.lookup? l = some (.file c) := by
  rw [contents?]
  split <;> simp_all

/-- The location that a path names, whether or not its directories are there. -/
def place (d : Disk) (p : Path) : Location := p.pieces.foldl enter (d.start p)

lemma pieces_ne_nil (p : Path) : p.pieces ≠ [] := Text.cut_ne_nil '/' p.text

lemma walk_cons_eq_ok_iff {piece : Text} :
    d.walk l (piece :: ps) = .ok m ↔ d.lookup? l = some .directory ∧ d.walk (enter l piece) ps = .ok m := by
  rw [walk]
  split <;> simp_all

lemma walk_append_eq_ok_iff {qs : List Text} :
    d.walk l (ps ++ qs) = .ok m ↔ ∃ k, d.walk l ps = .ok k ∧ d.walk k qs = .ok m := by
  induction ps generalizing l with
  | nil => simp [walk]
  | cons piece ps ih => simp only [List.cons_append, walk_cons_eq_ok_iff, ih, and_assoc, exists_and_left]

lemma walk_eq_foldl (h : d.walk l ps = .ok m) : m = ps.foldl enter l := by
  induction ps generalizing l with
  | nil => simpa [walk] using h.symm
  | cons piece ps ih => exact ih (walk_cons_eq_ok_iff.mp h).2

lemma locate_eq_ok_iff : d.locate p = .ok l ↔ p.text ≠ [] ∧ d.walk (d.start p) p.pieces = .ok l := by
  rw [locate]
  split <;> simp_all

lemma eq_place_of_locate (h : d.locate p = .ok l) : l = d.place p := walk_eq_foldl (locate_eq_ok_iff.mp h).2

lemma find_eq_ok_iff : d.find p = .ok e ↔ d.locate p = .ok (d.place p) ∧ d.lookup? (d.place p) = some e := by
  rw [find]
  cases hl : d.locate p with
  | error err => simp
  | ok l =>
    obtain rfl := eq_place_of_locate hl
    cases hf : d.lookup? (d.place p) <;> simp [hf]

lemma isDirectory_iff : d.isDirectory p = true ↔ d.find p = .ok .directory := by
  rw [isDirectory]
  split <;> simp_all

lemma isFile_iff : d.isFile p = true ↔ ∃ c, d.find p = .ok (.file c) := by
  rw [isFile]
  split <;> simp_all

lemma holds_iff : d.holds p = true ↔ ∃ e, d.find p = .ok e := by
  rw [holds]
  split <;> simp_all

lemma read_eq_ok_iff {t : Text} : d.read p = .ok t ↔ d.find p = .ok (.file (.text t)) := by
  rw [read]
  split <;> simp_all

structure Grows (d d' : Disk) : Prop where
  working : d'.working = d.working
  directory : ∀ l, d.lookup? l = some .directory → d'.lookup? l = some .directory
  file : ∀ l c, d.lookup? l = some (.file c) → ∃ c', d'.lookup? l = some (.file c')

namespace Grows

lemma refl (d : Disk) : Grows d d := ⟨rfl, fun _ h => h, fun _ c h => ⟨c, h⟩⟩

lemma trans (h : Grows d d') (h' : Grows d' d'') : Grows d d'' where
  working := h'.working.trans h.working
  directory l hl := h'.directory l (h.directory l hl)
  file l c hl := by
    obtain ⟨c', hc⟩ := h.file l c hl
    exact h'.file l c' hc

lemma start (h : Grows d d') (p : Path) : d'.start p = d.start p := by
  rw [Disk.start, Disk.start, h.working]

lemma place (h : Grows d d') (p : Path) : d'.place p = d.place p := by
  rw [Disk.place, Disk.place, h.start]

lemma walk (h : Grows d d') (hw : d.walk l ps = .ok m) : d'.walk l ps = .ok m := by
  induction ps generalizing l with
  | nil => exact hw
  | cons piece ps ih =>
    obtain ⟨hl, hr⟩ := walk_cons_eq_ok_iff.mp hw
    exact walk_cons_eq_ok_iff.mpr ⟨h.directory l hl, ih hr⟩

lemma locate (h : Grows d d') (hl : d.locate p = .ok l) : d'.locate p = .ok l := by
  obtain ⟨hp, hw⟩ := locate_eq_ok_iff.mp hl
  exact locate_eq_ok_iff.mpr ⟨hp, h.start p ▸ h.walk hw⟩

lemma isDirectory (h : Grows d d') (hp : d.isDirectory p = true) : d'.isDirectory p = true := by
  obtain ⟨hl, he⟩ := find_eq_ok_iff.mp (isDirectory_iff.mp hp)
  exact isDirectory_iff.mpr (find_eq_ok_iff.mpr ⟨h.place p ▸ h.locate hl, h.place p ▸ h.directory _ he⟩)

lemma isFile (h : Grows d d') (hp : d.isFile p = true) : d'.isFile p = true := by
  obtain ⟨c, hf⟩ := isFile_iff.mp hp
  obtain ⟨hl, he⟩ := find_eq_ok_iff.mp hf
  obtain ⟨c', hc⟩ := h.file _ c he
  exact isFile_iff.mpr ⟨c', find_eq_ok_iff.mpr ⟨h.place p ▸ h.locate hl, h.place p ▸ hc⟩⟩

lemma holds (h : Grows d d') (hp : d.holds p = true) : d'.holds p = true := by
  obtain ⟨e, he⟩ := holds_iff.mp hp
  cases e with
  | directory => exact holds_iff.mpr ⟨_, isDirectory_iff.mp (h.isDirectory (isDirectory_iff.mpr he))⟩
  | file c =>
    obtain ⟨c', hc⟩ := isFile_iff.mp (h.isFile (isFile_iff.mpr ⟨c, he⟩))
    exact holds_iff.mpr ⟨_, hc⟩

lemma find_file (h : Grows d d') (hp : d.isFile p = true)
    (hc : d'.contents? (d.place p) = d.contents? (d.place p)) : d'.find p = d.find p := by
  obtain ⟨c, hf⟩ := isFile_iff.mp hp
  obtain ⟨hl, he⟩ := find_eq_ok_iff.mp hf
  rw [contents?_eq_some_iff.mpr he, contents?_eq_some_iff] at hc
  rw [hf]
  exact find_eq_ok_iff.mpr ⟨h.place p ▸ h.locate hl, h.place p ▸ hc⟩

end Grows

lemma ne_nil_of_lookup? (h : d.lookup? l ≠ some .directory) : l ≠ [] := by
  rintro rfl
  exact h rfl

lemma grows_put_file (h : d.lookup? l ≠ some .directory) : Grows d (d.put l (.file c)) := by
  by_cases hl : l.Named
  · refine ⟨put_working d l _, fun m hm => ?_, fun m c' hm => ?_⟩
    · have hne : m ≠ l := by
        rintro rfl
        exact h hm
      rwa [lookup?_put_of_ne hne]
    · by_cases hne : m = l
      · subst hne
        exact ⟨c, lookup?_put_self (ne_nil_of_lookup? h) hl _⟩
      · exact ⟨c', by rwa [lookup?_put_of_ne hne]⟩
  · rw [put_of_not_named hl]
    exact Grows.refl d

lemma grows_put_directory (h : d.lookup? l = none) : Grows d (d.put l .directory) := by
  have hne : ∀ {m e}, d.lookup? m = some e → m ≠ l := by
    rintro m e hm rfl
    rw [h] at hm
    cases hm
  exact ⟨put_working d l _, fun m hm => by rwa [lookup?_put_of_ne (hne hm)],
    fun m c hm => ⟨c, by rwa [lookup?_put_of_ne (hne hm)]⟩⟩

lemma contents?_put_file (h : l ≠ []) (hl : l.Named) (c : Contents) (m : Location) :
    (d.put l (.file c)).contents? m = if m = l then some c else d.contents? m := by
  by_cases hm : m = l
  · subst hm
    rw [if_pos rfl, contents?_eq_some_iff, lookup?_put_self h hl]
  · rw [if_neg hm, contents?, contents?, lookup?_put_of_ne hm]

lemma contents?_put_directory (h : d.lookup? l = none) (m : Location) :
    (d.put l .directory).contents? m = d.contents? m := by
  by_cases hl : l.Named
  · by_cases hm : m = l
    · subst hm
      have hne : m ≠ [] := ne_nil_of_lookup? (d := d) (by simp [h])
      rw [contents?, contents?, lookup?_put_self hne hl, h]
    · rw [contents?, contents?, lookup?_put_of_ne hm]
  · rw [put_of_not_named hl]

end CommentBlocks.Disk
