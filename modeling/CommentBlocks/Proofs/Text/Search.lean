import CommentBlocks.Text
import Mathlib.Tactic.Common

namespace CommentBlocks.Text

variable {α : Type} {p : Char → Bool} {read : Text → Option α} {s run rest : Text} {x : α}

/-- A run of `p` with the readable text `rest` after it, such that no longer run has one. -/
structure LongestRun (p : Char → Bool) (read : Text → Option α) (s run rest : Text) : Prop where
  split : s = run ++ rest
  holds : ∀ c ∈ run, p c = true
  reads : (read rest).isSome = true
  longest : ∀ run' rest', s = run' ++ rest' → (∀ c ∈ run', p c = true) → (read rest').isSome = true →
    run'.length ≤ run.length

lemma LongestRun.unique {run' rest' : Text} (h : LongestRun p read s run rest)
    (h' : LongestRun p read s run' rest') : run = run' ∧ rest = rest' := by
  have hl := h'.longest run rest h.split h.holds h.reads
  have hl' := h.longest run' rest' h'.split h'.holds h'.reads
  exact List.append_inj (h.split.symm.trans h'.split) (Nat.le_antisymm hl hl')

lemma LongestRun.cons {c : Char} (hc : p c = true) (h : LongestRun p read s run rest) :
    LongestRun p read (c :: s) (c :: run) rest where
  split := by rw [h.split, List.cons_append]
  holds := List.forall_mem_cons.mpr ⟨hc, h.holds⟩
  reads := h.reads
  longest run' rest' hs hp hr := by
    cases run' with
    | nil => exact Nat.zero_le _
    | cons d run' =>
      have he : s = run' ++ rest' := (List.cons.inj hs).2
      have hl := h.longest run' rest' he (List.forall_mem_cons.mp hp).2 hr
      simpa only [List.length_cons, Nat.add_le_add_iff_right] using hl

lemma longestRun?_isSome (hp : ∀ c ∈ run, p c = true) (hr : (read rest).isSome = true) :
    (longestRun? p read (run ++ rest)).isSome = true := by
  induction run with
  | nil =>
    cases rest with
    | nil => simpa [longestRun?] using hr
    | cons c r =>
      rw [List.nil_append, longestRun?]
      split
      · rfl
      · simpa using hr
  | cons c run ih =>
    obtain ⟨hc, hrun⟩ := List.forall_mem_cons.mp hp
    obtain ⟨⟨run', x⟩, hx⟩ := Option.isSome_iff_exists.mp (ih hrun)
    simp [longestRun?, hc, hx]

lemma longestRun_of_longestRun? (h : longestRun? p read s = some (run, x)) :
    ∃ rest, LongestRun p read s run rest ∧ read rest = some x := by
  induction s generalizing run with
  | nil =>
    obtain ⟨y, hy, he⟩ := Option.map_eq_some_iff.mp h
    obtain ⟨rfl, rfl⟩ := Prod.mk.inj he
    refine ⟨[], ⟨rfl, by simp, by simp [hy], ?_⟩, hy⟩
    intro run' rest' hs _ _
    simp [(List.append_eq_nil_iff.mp hs.symm).1]
  | cons c r ih =>
    rw [longestRun?] at h
    cases hg : if p c = true then longestRun? p read r else none with
    | some y =>
      rw [hg] at h
      obtain ⟨rfl, rfl⟩ := Prod.mk.inj (Option.some.inj h)
      split at hg
      · next hc =>
        obtain ⟨rest, hl, hx⟩ := ih hg
        exact ⟨rest, hl.cons hc, hx⟩
      · cases hg
    | none =>
      rw [hg] at h
      obtain ⟨y, hy, he⟩ := Option.map_eq_some_iff.mp h
      obtain ⟨rfl, rfl⟩ := Prod.mk.inj he
      refine ⟨c :: r, ⟨rfl, by simp, by simp [hy], ?_⟩, hy⟩
      -- a longer run would start with `c` and go on in `r`
      intro run' rest' hs hp hr
      cases run' with
      | nil => exact Nat.le_refl _
      | cons d run' =>
        rw [List.cons_append] at hs
        obtain ⟨rfl, hrest⟩ := List.cons.inj hs
        obtain ⟨hc, hrun⟩ := List.forall_mem_cons.mp hp
        have hsome := longestRun?_isSome hrun hr
        rw [if_pos hc, hrest] at hg
        rw [hg] at hsome
        cases hsome

lemma longestRun?_eq_some_iff :
    longestRun? p read s = some (run, x) ↔ ∃ rest, LongestRun p read s run rest ∧ read rest = some x := by
  constructor
  · exact longestRun_of_longestRun?
  · rintro ⟨rest, hl, hx⟩
    have hsome := longestRun?_isSome hl.holds hl.reads
    rw [← hl.split] at hsome
    obtain ⟨⟨run', y⟩, hy⟩ := Option.isSome_iff_exists.mp hsome
    obtain ⟨rest', hl', hx'⟩ := longestRun_of_longestRun? hy
    obtain ⟨rfl, rfl⟩ := hl.unique hl'
    obtain rfl := Option.some.inj (hx.symm.trans hx')
    exact hy

lemma longestRun?_isSome_iff :
    (longestRun? p read s).isSome = true ↔
      ∃ run rest, s = run ++ rest ∧ (∀ c ∈ run, p c = true) ∧ (read rest).isSome = true := by
  constructor
  · intro h
    obtain ⟨⟨run, x⟩, hx⟩ := Option.isSome_iff_exists.mp h
    obtain ⟨rest, hl, _⟩ := longestRun_of_longestRun? hx
    exact ⟨run, rest, hl.split, hl.holds, hl.reads⟩
  · rintro ⟨run, rest, rfl, hp, hr⟩
    exact longestRun?_isSome hp hr

lemma longestRun?_map {β : Type} (read : Text → Option α) (f : α → β) (s : Text) :
    longestRun? p (fun r => (read r).map f) s = (longestRun? p read s).map fun x => (x.1, f x.2) := by
  induction s with
  | nil => simp [longestRun?, Function.comp_def]
  | cons c r ih =>
    rw [longestRun?, longestRun?, ih]
    split_ifs
    · cases longestRun? p read r <;> simp [Function.comp_def]
    · simp [Function.comp_def]

lemma firstPlace?_eq_some {before : Text} (h : firstPlace? read s = some (before, x)) :
    ∃ rest, s = before ++ rest ∧ read rest = some x := by
  induction s generalizing before with
  | nil =>
    obtain ⟨y, hy, he⟩ := Option.map_eq_some_iff.mp h
    obtain ⟨rfl, rfl⟩ := Prod.mk.inj he
    exact ⟨[], rfl, hy⟩
  | cons c r ih =>
    rw [firstPlace?] at h
    split at h
    · next y hy =>
      obtain ⟨rfl, rfl⟩ := Prod.mk.inj (Option.some.inj h)
      exact ⟨c :: r, rfl, hy⟩
    · obtain ⟨⟨before', y⟩, hf, he⟩ := Option.map_eq_some_iff.mp h
      obtain ⟨rfl, rfl⟩ := Prod.mk.inj he
      obtain ⟨rest, rfl, hr⟩ := ih hf
      exact ⟨rest, rfl, hr⟩

lemma firstPlace?_append {before : Text} (hb : ∀ u v, before = u ++ v → v ≠ [] → read (v ++ s) = none)
    (hs : read s = some x) : firstPlace? read (before ++ s) = some (before, x) := by
  induction before with
  | nil => cases s <;> simp [firstPlace?, hs]
  | cons c before ih =>
    have hc : read (c :: (before ++ s)) = none := hb [] (c :: before) rfl (List.cons_ne_nil c before)
    have hrest := ih fun u v he => hb (c :: u) v (by rw [he, List.cons_append])
    simp [firstPlace?, hc, hrest]

lemma firstPlace?_isSome_iff :
    (firstPlace? read s).isSome = true ↔ ∃ before rest, s = before ++ rest ∧ (read rest).isSome = true := by
  constructor
  · intro h
    obtain ⟨⟨before, x⟩, hx⟩ := Option.isSome_iff_exists.mp h
    obtain ⟨rest, hs, hr⟩ := firstPlace?_eq_some hx
    exact ⟨before, rest, hs, by rw [hr, Option.isSome_some]⟩
  · rintro ⟨before, rest, rfl, hr⟩
    induction before with
    | nil =>
      cases rest with
      | nil => simpa [firstPlace?] using hr
      | cons c r =>
        obtain ⟨x, hx⟩ := Option.isSome_iff_exists.mp hr
        simp [firstPlace?, hx]
    | cons c before ih =>
      rw [List.cons_append, firstPlace?]
      split
      · rfl
      · simpa using ih

end CommentBlocks.Text
