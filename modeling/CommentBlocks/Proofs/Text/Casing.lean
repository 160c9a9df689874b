import CommentBlocks.Text.Lowercase
import CommentBlocks.Text.Word
import Mathlib.Tactic.Common

/-! Texts with a lower case of small ASCII letters. Beyond ASCII only the Kelvin sign and the dotted capital I
have such a lower case, so a text with another lower case of this kind is ASCII itself. -/

namespace CommentBlocks.Text

variable {c x : Char} {word s : Text}

lemma toLower_of_not_upper (h : ¬ ('A' ≤ c ∧ c ≤ 'Z')) : c.toLower = c := dif_neg h

lemma toLower_of_le (h : 0x80 ≤ c.toNat) : c.toLower = c := by
  refine toLower_of_not_upper fun hc => ?_
  have hhi : c.toNat ≤ 90 := hc.2
  omega

lemma toNat_toLower_of_upper (h : 'A' ≤ c ∧ c ≤ 'Z') : c.toLower.toNat = c.toNat + 32 := by
  have hhi : c.val.toNat ≤ 90 := h.2
  have hval : c.toLower.val = c.val + ('a'.val - 'A'.val) := congrArg Char.val (dif_pos h)
  have hdistance : ('a'.val - 'A'.val).toNat = 32 := rfl
  rw [Char.toNat, hval, UInt32.toNat_add, hdistance]
  exact Nat.mod_eq_of_lt (by omega)

lemma toLower_eq_colon_iff : c.toLower = ':' ↔ c = ':' := by
  by_cases hc : 'A' ≤ c ∧ c ≤ 'Z'
  · have hn := toNat_toLower_of_upper hc
    have hlo : 65 ≤ c.toNat := hc.1
    have hcolon : ':'.toNat = 58 := rfl
    refine iff_of_false (fun h => ?_) (fun h => ?_)
    · rw [h] at hn
      omega
    · rw [h] at hlo
      omega
  · rw [toLower_of_not_upper hc]

lemma isWord_of_isWord_toLower (h : isWord c.toLower = true) : isWord c = true := by
  by_cases hc : 'A' ≤ c ∧ c ≤ 'Z'
  · have hhi : c.toNat ≤ 90 := hc.2
    have hu : c.isUpper = true := decide_eq_true hc
    have ha : c.isAlpha = true := Bool.or_eq_true_iff.mpr (.inl hu)
    exact isWord_of_isAlphanum (Bool.or_eq_true_iff.mpr (.inl ha)) (by omega)
  · rwa [toLower_of_not_upper hc] at h

lemma lowercaseRuns_leave_ascii :
    lowercaseRuns.all (fun r => 0x80 ≤ r.1 + r.2.2.2 || (r.1 = r.2.1 && r.1 + r.2.2.2 = 0x6B)) = true := by
  decide +kernel

lemma le_add_lowercaseDistance {n : Nat} (h : 0x80 ≤ n) :
    0x80 ≤ n + lowercaseDistance n ∨ n + lowercaseDistance n = 0x6B := by
  rw [lowercaseDistance]
  split
  · next first last step distance hf =>
    have hr := List.all_eq_true.mp lowercaseRuns_leave_ascii _ (List.mem_of_find?_eq_some hf)
    have hn := List.find?_some hf
    simp only [Bool.or_eq_true, Bool.and_eq_true, decide_eq_true_eq] at hr hn
    omega
  · omega

lemma le_of_mem_lowercaseChar (hc : 0x80 ≤ c.toNat) (h : x ∈ lowercaseChar c) :
    0x80 ≤ x.toNat ∨ x.toNat ∈ [0, 0x69, 0x6B] := by
  rw [lowercaseChar, if_neg (by omega)] at h
  split at h
  · simp only [List.mem_cons, List.not_mem_nil, or_false] at h
    rcases h with rfl | rfl <;> decide
  · rw [List.mem_singleton] at h
    have hd := le_add_lowercaseDistance hc
    -- a number that is no code point stands for the character 0
    by_cases hv : (c.toNat + lowercaseDistance c.toNat).toNat.isValidChar
    · have hx : x.toNat = (c.toNat + lowercaseDistance c.toNat).toNat := h ▸ congrArg Char.toNat (dif_pos hv)
      simp only [hx, List.mem_cons, List.not_mem_nil, or_false]
      omega
    · have hx : x.toNat = 0 := h ▸ congrArg Char.toNat (dif_neg hv)
      exact .inr (hx ▸ List.mem_cons_self)

lemma lowercaseChar_ne_nil (c : Char) : lowercaseChar c ≠ [] := by
  rw [lowercaseChar]
  split
  · exact List.cons_ne_nil _ _
  · split <;> exact List.cons_ne_nil _ _

lemma lowercaseFrom_eq_iff {before : Text} (hw : ∀ x ∈ word, x.toNat < 0x80 ∧ x.toNat ∉ [0, 0x69, 0x6B]) :
    lowercaseFrom before s = word ↔ s.map Char.toLower = word := by
  induction s generalizing before word with
  | nil => rfl
  | cons c r ih =>
    rw [lowercaseFrom, List.map_cons]
    by_cases hc : c.toNat < 0x80
    · have hs : c ≠ capitalSigma := by
        rintro rfl
        exact absurd hc (by decide)
      rw [if_neg hs, lowercaseChar, if_pos hc, List.singleton_append]
      cases word with
      | nil => simp only [reduceCtorEq]
      | cons x word => rw [List.cons.injEq, List.cons.injEq, ih (List.forall_mem_cons.mp hw).2]
    · have hle := Nat.le_of_not_lt hc
      refine iff_of_false (fun h => ?_) (fun h => ?_)
      · subst h
        split at hw
        · have := hw _ (List.mem_append_left _ List.mem_cons_self)
          split at this <;> exact absurd this.1 (by decide)
        · obtain ⟨x, l, hx⟩ := List.exists_cons_of_ne_nil (lowercaseChar_ne_nil c)
          obtain ⟨hlt, hne⟩ := hw x (List.mem_append_left _ (hx ▸ List.mem_cons_self))
          rcases le_of_mem_lowercaseChar hle (x := x) (hx ▸ List.mem_cons_self) with h | h
          · omega
          · exact hne h
      · subst h
        rw [toLower_of_le hle] at hw
        exact hc (hw c List.mem_cons_self).1

lemma lowercase_eq_iff (hw : ∀ x ∈ word, x.toNat < 0x80 ∧ x.toNat ∉ [0, 0x69, 0x6B]) :
    lowercase s = word ↔ s.map Char.toLower = word :=
  lowercaseFrom_eq_iff hw

end CommentBlocks.Text
