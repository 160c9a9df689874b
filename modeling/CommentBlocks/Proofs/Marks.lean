import CommentBlocks.Proofs.Rewriting

/-! Texts of a given kind in a line that is rewritten, where every text of the kind begins with `<` and ends with
`>`, as directives do. Uncommenting brings none into a line, and neither does commenting, as long as its delimiters
cannot be a part of one. -/

namespace CommentBlocks

namespace Text

variable {F : Text → Prop} {a b s t : Text}

def Contains (F : Text → Prop) (s : Text) : Prop := ∃ f, F f ∧ f <:+: s

structure Bracketed (F : Text → Prop) : Prop where
  starts : ∀ f, F f → ∃ g, f = '<' :: g
  ends : ∀ f, F f → ∃ g, f = g ++ ['>']

lemma Contains.of_isInfix (h : Contains F s) (hs : s <:+: t) : Contains F t := by
  obtain ⟨f, hf, hi⟩ := h
  exact ⟨f, hf, hi.trans hs⟩

lemma infix_of_head_not_mem {c : Char} {g : Text} (h : c :: g <:+: a ++ b) (hc : c ∉ a) : c :: g <:+: b := by
  rcases List.infix_append_iff.mp h with h | h | ⟨s, t, he, hs, ht⟩
  · exact absurd (h.subset List.mem_cons_self) hc
  · exact h
  · cases s with
    | nil => exact he ▸ ht.isInfix
    | cons x s =>
      obtain ⟨rfl, _⟩ := List.cons.inj he
      exact absurd (hs.subset List.mem_cons_self) hc

lemma infix_of_last_not_mem {c : Char} {g : Text} (h : g ++ [c] <:+: a ++ b) (hc : c ∉ b) : g ++ [c] <:+: a := by
  rw [← List.reverse_infix, List.reverse_append, List.reverse_append, List.reverse_singleton] at h
  rw [← List.reverse_infix, List.reverse_append, List.reverse_singleton]
  exact infix_of_head_not_mem h (by rwa [List.mem_reverse])

lemma Contains.of_frame (hF : Bracketed F) (h : Contains F (a ++ (s ++ b))) (ha : '<' ∉ a) (hb : '>' ∉ b) :
    Contains F s := by
  obtain ⟨f, hf, hi⟩ := h
  obtain ⟨g, hg⟩ := hF.starts f hf
  have hs : f <:+: s ++ b := by
    rw [hg] at hi ⊢
    exact infix_of_head_not_mem hi ha
  obtain ⟨k, hk⟩ := hF.ends f hf
  rw [hk] at hs
  exact ⟨f, hf, hk ▸ infix_of_last_not_mem hs hb⟩

end Text

open Text

variable {F : Text → Prop} {d : Delimiters} {p : Nat} {line : Text}

namespace Delimiters

lemma contains_of_uncomment (hF : Bracketed F) (h : Contains F (d.uncomment line)) : Contains F line := by
  cases hx : d.detect? line with
  | none => rwa [uncomment, hx] at h
  | some x =>
    rw [uncomment_of_detect? hx, ← List.append_nil (trim x.body)] at h
    have hw : '<' ∉ x.indent := not_mem_of_blank (by decide) (blank_indent_of_detect? hx)
    have hl : x.body <:+: line := by
      refine ⟨x.indent ++ d.opening, d.closing ++ x.rest, ?_⟩
      conv_rhs => rw [eq_of_detect? hx]
      simp only [List.append_assoc]
    exact (h.of_frame hF hw List.not_mem_nil).of_isInfix ((trim_infix_self x.body).trans hl)

lemma contains_of_inner (hF : Bracketed F) (h : Contains F (d.inner p line)) : Contains F line := by
  have hpad : '<' ∉ List.replicate p ' ' ∧ '>' ∉ List.replicate p ' ' :=
    ⟨not_mem_of_blank (by decide) (blank_replicate p), not_mem_of_blank (by decide) (blank_replicate p)⟩
  refine (h.of_frame hF hpad.1 ?_).of_isInfix (trim_infix_self line)
  split
  · exact List.not_mem_nil
  · exact hpad.2

lemma contains_of_comment (hF : Bracketed F) (ho : '<' ∉ d.opening) (hc : '>' ∉ d.closing)
    (h : Contains F (d.comment p line)) : Contains F line := by
  cases hl : d.isCommented line with
  | true => rwa [comment_of_commented hl] at h
  | false =>
    rw [comment_of_not_commented hl, ← List.append_assoc] at h
    have hfront : '<' ∉ Text.indent line ++ d.opening := by
      rw [List.mem_append, not_or]
      exact ⟨not_mem_of_blank (by decide) (blank_indent line), ho⟩
    exact contains_of_inner hF (h.of_frame hF hfront hc)

end Delimiters

lemma Action.contains_of_apply {a : Action} (hF : Bracketed F) (ho : '<' ∉ d.opening) (hc : '>' ∉ d.closing)
    (h : Contains F (a.apply d p line)) : Contains F line := by
  rcases a.apply_eq_comment_or_uncomment d p line with he | he
  · rw [he] at h
    exact Delimiters.contains_of_comment hF ho hc h
  · rw [he] at h
    exact Delimiters.contains_of_uncomment hF h

end CommentBlocks
