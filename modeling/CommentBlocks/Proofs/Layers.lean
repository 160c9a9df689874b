import CommentBlocks.Proofs.Rewriting
import Mathlib.Logic.Function.Iterate
import Mathlib.Data.Nat.Find

namespace CommentBlocks.Delimiters

variable {d : Delimiters} {line : Text} {n k : Nat}

lemma uncomment_eq_self_iff (hd : d.opening ≠ [] ∨ d.closing ≠ []) :
    d.uncomment line = line ↔ d.isCommented line = false := by
  constructor
  · intro he
    rw [Bool.eq_false_iff]
    intro hc
    have hlt := length_uncomment_lt hd hc
    rw [he] at hlt
    exact lt_irrefl _ hlt
  · exact uncomment_of_not_commented

structure Layers (d : Delimiters) (line : Text) (n : Nat) : Prop where
  commented : ∀ k < n, d.isCommented (d.uncomment^[k] line) = true
  bare : d.isCommented (d.uncomment^[n] line) = false

lemma length_iterate_uncomment_add_le (h : ∀ k < n, d.isCommented (d.uncomment^[k] line) = true) :
    (d.uncomment^[n] line).length + n * (d.opening.length + d.closing.length) ≤ line.length := by
  induction n with
  | zero => simp
  | succ n ih =>
    have hrun := ih fun k hk => h k (Nat.lt_succ_of_lt hk)
    have hstep := length_uncomment_add_le (h n n.lt_succ_self)
    rw [Function.iterate_succ_apply', Nat.succ_mul]
    omega

lemma le_length_of_commented (hd : d.opening ≠ [] ∨ d.closing ≠ [])
    (h : ∀ k < n, d.isCommented (d.uncomment^[k] line) = true) : n ≤ line.length := by
  have hrun := length_iterate_uncomment_add_le h
  have hmul := Nat.le_mul_of_pos_right n (length_pos_of_ne_nil hd)
  omega

lemma exists_layers (hd : d.opening ≠ [] ∨ d.closing ≠ []) (line : Text) : ∃ n, d.Layers line n := by
  have hbare : ∃ n, d.isCommented (d.uncomment^[n] line) = false := by
    by_contra hnone
    have hall : ∀ k < line.length + 1, d.isCommented (d.uncomment^[k] line) = true := by
      intro k _
      apply eq_true_of_ne_false
      exact fun hk => hnone ⟨k, hk⟩
    have hle := le_length_of_commented hd hall
    omega
  refine ⟨Nat.find hbare, ?_, Nat.find_spec hbare⟩
  intro k hk
  exact eq_true_of_ne_false (Nat.find_min hbare hk)

lemma Layers.iterate_eq (h : d.Layers line n) (hk : n ≤ k) : d.uncomment^[k] line = d.uncomment^[n] line := by
  obtain ⟨m, rfl⟩ := Nat.exists_eq_add_of_le' hk
  rw [Function.iterate_add_apply]
  exact Function.iterate_fixed (uncomment_of_not_commented h.bare) m

/-- A line has no more layers than characters. Uncommenting is idempotent exactly where at most one is left. -/
theorem uncomment_layers (hd : d.opening ≠ [] ∨ d.closing ≠ []) (line : Text) :
    (d.uncomment line ≠ line ↔ d.isCommented line = true) ∧
      (d.isCommented line = true → (d.uncomment line).length < line.length) ∧
      (∃ n ≤ line.length, d.Layers line n ∧ ∀ k ≥ n, d.uncomment^[k] line = d.uncomment^[n] line) ∧
      (d.uncomment (d.uncomment line) = d.uncomment line ↔ d.isCommented (d.uncomment line) = false) := by
  refine ⟨?_, length_uncomment_lt hd, ?_, uncomment_eq_self_iff hd⟩
  · rw [ne_eq, uncomment_eq_self_iff hd, Bool.not_eq_false]
  · obtain ⟨n, hn⟩ := exists_layers hd line
    exact ⟨n, le_length_of_commented hd hn.commented, hn, fun k hk => hn.iterate_eq hk⟩

theorem uncomment_layers_closing_only :
    (([] : Text) ≠ [] ∨ "*".toList ≠ []) ∧
      (⟨[], "*".toList⟩ : Delimiters).uncomment "a**\n*b".toList = "a*".toList ∧
      (⟨[], "*".toList⟩ : Delimiters).uncomment "a*".toList ≠ "a*".toList ∧
      ∃ n ≤ 6, (⟨[], "*".toList⟩ : Delimiters).Layers "a**\n*b".toList n := by
  have hd : ([] : Text) ≠ [] ∨ "*".toList ≠ [] := by decide
  have hfirst : (⟨[], "*".toList⟩ : Delimiters).uncomment "a**\n*b".toList = "a*".toList := by decide
  obtain ⟨-, -, ⟨n, hle, hn, -⟩, htwice⟩ := uncomment_layers (d := ⟨[], "*".toList⟩) hd "a**\n*b".toList
  rw [hfirst] at htwice
  refine ⟨hd, hfirst, ?_, n, hle, hn⟩
  rw [ne_eq, htwice]
  decide

end CommentBlocks.Delimiters
