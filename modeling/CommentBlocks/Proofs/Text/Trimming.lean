import CommentBlocks.Text.Blank
import Mathlib.Data.List.DropRight
import Mathlib.Tactic.Common

namespace CommentBlocks.Text

def Blank (s : Text) : Prop := ∀ c ∈ s, isBlank c = true

def Solid (s : Text) : Prop := ∀ c ∈ s, isBlank c = false

instance (s : Text) : Decidable (Blank s) := List.decidableBAll (fun c => isBlank c = true) s

instance (s : Text) : Decidable (Solid s) := List.decidableBAll (fun c => isBlank c = false) s

lemma blank_replicate (n : Nat) : Blank (List.replicate n ' ') := by
  intro c hc
  obtain rfl := List.eq_of_mem_replicate hc
  decide

lemma solid_nil : Solid [] := by
  intro c hc
  cases hc

lemma blank_indent (s : Text) : Blank (indent s) :=
  fun _ hc => List.mem_takeWhile_imp hc

lemma not_mem_of_blank {c : Char} {s : Text} (hc : isBlank c = false) (h : Blank s) : c ∉ s := by
  intro hm
  rw [h c hm] at hc
  cases hc

lemma not_mem_of_solid {c : Char} {s : Text} (hc : isBlank c = true) (h : Solid s) : c ∉ s := by
  intro hm
  rw [h c hm] at hc
  cases hc

lemma indent_append_cons {w : Text} {c : Char} (hw : Blank w) (hc : isBlank c = false) (s : Text) :
    indent (w ++ c :: s) = w := by
  rw [indent, List.takeWhile_append_of_pos hw, List.takeWhile_cons_of_neg (by simp [hc]), List.append_nil]

lemma trimStart_append {w : Text} (hw : Blank w) (s : Text) : trimStart (w ++ s) = trimStart s :=
  List.dropWhile_append_of_pos hw

lemma trimStart_of_blank {w : Text} (hw : Blank w) : trimStart w = [] :=
  List.dropWhile_eq_nil_iff.mpr hw

lemma trimStart_cons {c : Char} (hc : isBlank c = false) (s : Text) : trimStart (c :: s) = c :: s :=
  List.dropWhile_cons_of_neg (by simp [hc])

lemma trimStart_trimStart (s : Text) : trimStart (trimStart s) = trimStart s := List.dropWhile_idempotent isBlank s

lemma trimEnd_eq_rdropWhile (s : Text) : trimEnd s = s.rdropWhile isBlank := rfl

lemma trimEnd_append {w : Text} (hw : Blank w) (s : Text) : trimEnd (s ++ w) = trimEnd s := by
  have hr : ∀ c ∈ w.reverse, isBlank c = true := fun c hc => hw c (List.mem_reverse.mp hc)
  rw [trimEnd, List.reverse_append, List.dropWhile_append_of_pos hr, trimEnd]

lemma trimEnd_prefix_self (s : Text) : trimEnd s <+: s := List.rdropWhile_prefix isBlank s

lemma exists_blank_trimEnd (s : Text) : ∃ w, Blank w ∧ s = trimEnd s ++ w := by
  refine ⟨(s.reverse.takeWhile isBlank).reverse, ?_, ?_⟩
  · intro c hc
    exact List.mem_takeWhile_imp (List.mem_reverse.mp hc)
  · rw [trimEnd, ← List.reverse_append, List.takeWhile_append_dropWhile, List.reverse_reverse]

lemma trimEnd_append_solid {t : Text} (ht : Solid t) (hne : t ≠ []) (s : Text) : trimEnd (s ++ t) = s ++ t := by
  obtain ⟨u, c, rfl⟩ := List.eq_nil_or_concat t |>.resolve_left hne
  have hc : isBlank c = false := ht c (by simp)
  rw [List.concat_eq_append, ← List.append_assoc, trimEnd_eq_rdropWhile,
    List.rdropWhile_concat_neg _ _ _ (by simp [hc])]

lemma trimStart_trim (s : Text) : trimStart (trim s) = trim s := by
  have hp : trim s <+: trimStart s := trimEnd_prefix_self (trimStart s)
  cases ht : trim s with
  | nil => rfl
  | cons c r =>
    rw [ht] at hp
    obtain ⟨u, hu⟩ := hp
    have hc : isBlank c = false := by
      have hh := List.head?_dropWhile_not isBlank s
      rw [← trimStart, ← hu] at hh
      exact hh
    exact trimStart_cons hc r

lemma trimEnd_trim (s : Text) : trimEnd (trim s) = trim s :=
  List.rdropWhile_idempotent isBlank (trimStart s)

lemma trim_trim (s : Text) : trim (trim s) = trim s := by
  rw [trim, trimStart_trim, trimEnd_trim]

lemma trim_append_left {w : Text} (hw : Blank w) (s : Text) : trim (w ++ s) = trim s := by
  rw [trim, trimStart_append hw, trim]

lemma trim_append_right {w : Text} (hw : Blank w) (s : Text) : trim (s ++ w) = trim s := by
  rw [trim, trimStart, List.dropWhile_append]
  split
  · next h =>
    have hs : trimStart s = [] := List.isEmpty_iff.mp h
    have hw' : trimStart w = [] := trimStart_of_blank hw
    rw [← trimStart, hw', trim, hs]
  · rw [trimEnd_append hw, trim, trimStart]

lemma trim_eq_nil_iff {s : Text} : trim s = [] ↔ Blank s := by
  constructor
  · intro h
    have hi : Text.indent s ++ trimStart s = s := indent_append_trimStart s
    obtain ⟨w, hw, hs⟩ := exists_blank_trimEnd (trimStart s)
    rw [← trim, h, List.nil_append] at hs
    rw [hs] at hi
    rw [← hi]
    exact List.forall_mem_append.mpr ⟨blank_indent s, hw⟩
  · intro h
    rw [trim, trimStart_of_blank h]
    rfl

lemma getLast?_trim_ne {c : Char} (hc : isBlank c = true) (s : Text) : (trim s).getLast? ≠ some c := by
  intro h
  obtain ⟨u, hu⟩ := List.getLast?_eq_some_iff.mp h
  have ht := trimEnd_trim s
  rw [hu, trimEnd_append (fun y hy => by rwa [List.mem_singleton.mp hy])] at ht
  have hl := (trimEnd_prefix_self u).length_le
  rw [ht, List.length_append, List.length_singleton] at hl
  omega

lemma trim_infix_self (s : Text) : trim s <:+: s :=
  (trimEnd_prefix_self _).isInfix.trans (List.dropWhile_suffix isBlank).isInfix

lemma suffix_trimEnd_of_suffix_trim {t s : Text} (ht : Solid t) (hne : t ≠ []) (h : t <:+ trim s) :
    t <:+ trimEnd s := by
  obtain ⟨u, hu⟩ := h
  obtain ⟨w, hw, hs⟩ := exists_blank_trimEnd (trimStart s)
  have hsplit : s = ((indent s ++ u) ++ t) ++ w := by
    calc s = indent s ++ ((u ++ t) ++ w) := by rw [hu, trim, ← hs, indent_append_trimStart]
      _ = ((indent s ++ u) ++ t) ++ w := by simp only [List.append_assoc]
  have hend : trimEnd s = (indent s ++ u) ++ t := by
    conv_lhs => rw [hsplit, trimEnd_append hw, trimEnd_append_solid ht hne]
  rw [hend]
  exact List.suffix_append _ _

lemma mem_of_mem_trim {c : Char} {s : Text} (h : c ∈ trim s) : c ∈ s :=
  (trim_infix_self s).subset h

lemma mem_of_mem_indent {c : Char} {s : Text} (h : c ∈ indent s) : c ∈ s :=
  (List.takeWhile_prefix isBlank).subset h

lemma squash_of_solid {s : Text} (h : Solid s) : squash s = s := by
  rw [squash, List.filter_eq_self]
  intro c hc
  rw [h c hc, Bool.not_false]

lemma squash_eq_nil_iff {s : Text} : squash s = [] ↔ Blank s := by
  simp [squash, Blank]

end CommentBlocks.Text
