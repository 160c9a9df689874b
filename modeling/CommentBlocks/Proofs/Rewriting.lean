import CommentBlocks.Action
import CommentBlocks.Proofs.Detection

namespace CommentBlocks.Delimiters

open Text

variable {d : Delimiters} {p : Nat} {line : Text} {x : Detection}

def inner (d : Delimiters) (p : Nat) (line : Text) : Text :=
  List.replicate p ' ' ++ (trim line ++ if d.closing = [] then [] else List.replicate p ' ')

lemma comment_of_commented (h : d.isCommented line = true) : d.comment p line = line := by
  rw [comment, if_pos h]

lemma comment_of_not_commented (h : d.isCommented line = false) :
    d.comment p line = Text.indent line ++ (d.opening ++ (d.inner p line ++ d.closing)) := by
  rw [comment, if_neg (by simp [h]), inner]
  split
  · next hc => simp only [hc, List.append_nil]
  · simp only [List.append_assoc]

lemma uncomment_of_detect? (h : d.detect? line = some x) : d.uncomment line = x.indent ++ trim x.body := by
  rw [uncomment, h]

lemma uncomment_of_not_commented (h : d.isCommented line = false) : d.uncomment line = line := by
  rw [uncomment, detect?_isNone_of_not_commented h]

lemma trim_inner (d : Delimiters) (p : Nat) (line : Text) : trim (d.inner p line) = trim line := by
  have hpad := blank_replicate p
  rw [inner, trim_append_left hpad]
  split
  · rw [List.append_nil, trim_trim]
  · rw [trim_append_right hpad, trim_trim]

lemma mem_inner {c : Char} (h : c ∈ d.inner p line) : c = ' ' ∨ c ∈ line := by
  simp only [inner, List.mem_append, List.mem_replicate] at h
  rcases h with ⟨_, hc⟩ | hc | hc
  · exact Or.inl hc
  · exact Or.inr (mem_of_mem_trim hc)
  · split at hc
    · cases hc
    · exact Or.inl (List.eq_of_mem_replicate hc)

lemma newline_not_mem_inner (hn : '\n' ∉ line) : '\n' ∉ d.inner p line := by
  intro h
  rcases mem_inner h with hc | hc
  · cases hc
  · exact hn hc

lemma isCommented_comment (d : Delimiters) (p : Nat) (hn : '\n' ∉ line) :
    d.isCommented (d.comment p line) = true := by
  cases h : d.isCommented line with
  | true => rw [comment_of_commented h, h]
  | false =>
    rw [comment_of_not_commented h]
    exact isCommented_iff.mpr
      ⟨_, _, [], by rw [List.append_nil], blank_indent line, newline_not_mem_inner hn⟩

lemma comment_eq_self_iff (hn : '\n' ∉ line) : d.comment p line = line ↔ d.isCommented line = true := by
  constructor
  · intro he
    have hc := isCommented_comment d p hn
    rwa [he] at hc
  · exact comment_of_commented

/-- Commenting ends in the commented state, where no padding changes the line any more. -/
theorem comment_stable (d : Delimiters) (hn : '\n' ∉ line) (p q : Nat) :
    d.isCommented (d.comment p line) = true ∧ d.comment q (d.comment p line) = d.comment p line ∧
      (d.comment p line = line ↔ d.isCommented line = true) := by
  have hc := isCommented_comment d p hn
  exact ⟨hc, comment_of_commented hc, comment_eq_self_iff hn⟩

theorem comment_stable_blank_opening :
    '\n' ∉ " (* a".toList ∧
      (⟨" (*".toList, ") ".toList⟩ : Delimiters).comment 0 " (* a".toList = "  (*(* a) ".toList ∧
      (⟨" (*".toList, ") ".toList⟩ : Delimiters).comment 3 "  (*(* a) ".toList = "  (*(* a) ".toList := by
  have hn : '\n' ∉ " (* a".toList := by decide
  have hcomment : (⟨" (*".toList, ") ".toList⟩ : Delimiters).comment 0 " (* a".toList = "  (*(* a) ".toList := by
    decide
  have hstable := comment_stable ⟨" (*".toList, ") ".toList⟩ hn 0 3
  rw [hcomment] at hstable
  exact ⟨hn, hcomment, hstable.2.1⟩

lemma detect?_comment (hd : d.OpensVisibly) (h : d.isCommented line = false) (hn : '\n' ∉ line) :
    d.detect? (d.comment p line) = some ⟨Text.indent line, d.inner p line, []⟩ := by
  rw [comment_of_not_commented h]
  exact detect?_of_closed hd (blank_indent line) (newline_not_mem_inner hn)

lemma uncomment_of_comment (hd : d.OpensVisibly) (h : d.isCommented line = false) (hn : '\n' ∉ line) :
    d.uncomment (d.comment p line) = Text.indent line ++ trim line := by
  rw [uncomment_of_detect? (detect?_comment hd h hn), trim_inner]

/-- Uncommenting undoes commenting, but for the blanks at the end of the line. -/
theorem uncomment_comment (hd : d.OpensVisibly) (hn : '\n' ∉ line) (h : d.isCommented line = false) (p : Nat) :
    d.uncomment (d.comment p line) = Text.indent line ++ trim (trimStart line) := by
  rw [uncomment_of_comment hd h hn, trim, trim, trimStart_trimStart]

theorem uncomment_comment_slash : css.isCommented "  * /* a */ / ".toList = false ∧
    css.comment 0 "  * /* a */ / ".toList = "  /** /* a */ /*/".toList ∧
    css.uncomment "  /** /* a */ /*/".toList = "  * /* a */ /".toList := by
  have hplain : css.isCommented "  * /* a */ / ".toList = false := by decide
  have hcomment : css.comment 0 "  * /* a */ / ".toList = "  /** /* a */ /*/".toList := by decide
  have hback := uncomment_comment solid_css.visible (by decide) hplain 0
  rw [hcomment] at hback
  exact ⟨hplain, hcomment, hback⟩

lemma mem_of_mem_uncomment {c : Char} (h : c ∈ d.uncomment line) : c ∈ line := by
  cases hx : d.detect? line with
  | none => rwa [uncomment, hx] at h
  | some x =>
    rw [uncomment_of_detect? hx, List.mem_append] at h
    rw [eq_of_detect? hx]
    simp only [List.mem_append]
    rcases h with h | h
    · exact Or.inl h
    · exact Or.inr (Or.inr (Or.inl (mem_of_mem_trim h)))

lemma mem_comment {c : Char} (h : c ∈ d.comment p line) :
    c ∈ line ∨ c = ' ' ∨ c ∈ d.opening ∨ c ∈ d.closing := by
  cases hc : d.isCommented line with
  | true =>
    rw [comment_of_commented hc] at h
    exact Or.inl h
  | false =>
    rw [comment_of_not_commented hc] at h
    simp only [List.mem_append] at h
    rcases h with h | h | h | h
    · exact Or.inl (mem_of_mem_indent h)
    · exact Or.inr (Or.inr (Or.inl h))
    · exact (mem_inner h).symm.imp_right Or.inl
    · exact Or.inr (Or.inr (Or.inr h))

lemma length_uncomment_add_le (h : d.isCommented line = true) :
    (d.uncomment line).length + (d.opening.length + d.closing.length) ≤ line.length := by
  obtain ⟨x, hx⟩ := exists_detect?_of_commented h
  have hl := congrArg List.length (eq_of_detect? hx)
  have ht : (trim x.body).length ≤ x.body.length := (trim_infix_self x.body).length_le
  simp only [List.length_append] at hl
  rw [uncomment_of_detect? hx, List.length_append]
  omega

lemma length_pos_of_ne_nil (hd : d.opening ≠ [] ∨ d.closing ≠ []) : 0 < d.opening.length + d.closing.length := by
  rcases hd with ho | hc
  · exact Nat.add_pos_left (List.length_pos_iff.mpr ho) _
  · exact Nat.add_pos_right _ (List.length_pos_iff.mpr hc)

lemma length_uncomment_lt (hd : d.opening ≠ [] ∨ d.closing ≠ []) (h : d.isCommented line = true) :
    (d.uncomment line).length < line.length := by
  have hle := length_uncomment_add_le h
  have hpos := length_pos_of_ne_nil hd
  omega

lemma toggle_of_commented (h : d.isCommented line = true) : d.toggle p line = d.uncomment line := by
  simp only [toggle, comment_of_commented h, ne_eq, not_true_eq_false, if_false]

lemma toggle_of_not_commented (h : d.isCommented line = false) (hn : '\n' ∉ line) :
    d.toggle p line = d.comment p line := by
  have hne : d.comment p line ≠ line := by
    rw [ne_eq, comment_eq_self_iff hn, h]
    exact Bool.false_ne_true
  simp only [toggle, ne_eq, hne, not_false_eq_true, if_true]

-- toggling compares the line with its commented form and never asks whether it is commented
lemma toggle_eq_ite (hn : '\n' ∉ line) :
    d.toggle p line = if d.isCommented line = true then d.uncomment line else d.comment p line := by
  split_ifs with h
  · exact toggle_of_commented h
  · exact toggle_of_not_commented (Bool.eq_false_iff.mpr h) hn

/-- An uncommented line with no blanks at its end, apart from those that are all there is. -/
def Plain (d : Delimiters) (line : Text) : Prop :=
  d.isCommented line = false ∧ trimEnd (trimStart line) = trimStart line

instance (d : Delimiters) (line : Text) : Decidable (d.Plain line) :=
  inferInstanceAs (Decidable (_ ∧ _))

lemma eq_of_plain (h : d.Plain line) : Text.indent line ++ trim line = line := by
  rw [trim, h.2, indent_append_trimStart]

lemma uncomment_comment_of_plain (hd : d.OpensVisibly) (h : d.Plain line) (hn : '\n' ∉ line) :
    d.uncomment (d.comment p line) = line := by
  rw [uncomment_of_comment hd h.1 hn, eq_of_plain h]

lemma mem_comment_of_plain {c : Char} (h : d.Plain line) (hc : c ∈ line) : c ∈ d.comment p line := by
  rw [← eq_of_plain h, List.mem_append] at hc
  rw [comment_of_not_commented h.1, inner]
  simp only [List.mem_append]
  rcases hc with hc | hc
  · exact Or.inl hc
  · exact Or.inr (Or.inr (Or.inl (Or.inr (Or.inl hc))))

lemma plain_uncomment (h : d.detect? line = some x) (hu : d.isCommented (d.uncomment line) = false) :
    d.Plain (d.uncomment line) := by
  refine ⟨hu, ?_⟩
  rw [uncomment_of_detect? h, trimStart_append (blank_indent_of_detect? h), trimStart_trim, trimEnd_trim]

lemma toggle_toggle_of_not_commented (hd : d.OpensVisibly) (h : d.isCommented line = false) (hn : '\n' ∉ line) :
    d.toggle p (d.toggle p line) = Text.indent line ++ trim line := by
  rw [toggle_of_not_commented h hn, toggle_of_commented (isCommented_comment d p hn),
    uncomment_of_comment hd h hn]

lemma plain_iff_of_not_commented (h : d.isCommented line = false) :
    d.Plain line ↔ Text.indent line ++ trim line = line := by
  constructor
  · exact eq_of_plain
  · intro he
    have ht : Text.indent line ++ trim line = Text.indent line ++ trimStart line := by
      rw [indent_append_trimStart]
      exact he
    exact ⟨h, List.append_cancel_left ht⟩

lemma toggle_toggle_iff_of_commented (hd : d.OpensVisibly) (h : d.isCommented line = true) (hn : '\n' ∉ line) :
    d.toggle p (d.toggle p line) = line ↔ ∃ u, d.Plain u ∧ line = d.comment p u := by
  obtain ⟨x, hx⟩ := exists_detect?_of_commented h
  have hun : '\n' ∉ d.uncomment line := fun hc => hn (mem_of_mem_uncomment hc)
  rw [toggle_of_commented h]
  constructor
  · intro ht
    cases hu : d.isCommented (d.uncomment line) with
    | false =>
      rw [toggle_of_not_commented hu hun] at ht
      exact ⟨d.uncomment line, plain_uncomment hx hu, ht.symm⟩
    | true =>
      -- taking off two layers leaves a shorter line
      rw [toggle_of_commented hu] at ht
      have hl := length_uncomment_lt hd.ne_nil h
      have hl' := length_uncomment_lt hd.ne_nil hu
      rw [ht] at hl'
      omega
  · rintro ⟨u, hp, rfl⟩
    have hu : '\n' ∉ u := fun hc => hn (mem_comment_of_plain hp hc)
    rw [uncomment_comment_of_plain hd hp hu, toggle_of_not_commented hp.1 hu]

lemma toggle_toggle_iff (hd : d.OpensVisibly) (hn : '\n' ∉ line) :
    d.toggle p (d.toggle p line) = line ↔ d.Plain line ∨ ∃ u, d.Plain u ∧ line = d.comment p u := by
  cases h : d.isCommented line with
  | false =>
    rw [toggle_toggle_of_not_commented hd h hn, ← plain_iff_of_not_commented h]
    constructor
    · exact Or.inl
    · rintro (hp | ⟨u, hp, rfl⟩)
      · exact hp
      · have hu : '\n' ∉ u := fun hc => hn (mem_comment_of_plain hp hc)
        rw [isCommented_comment d p hu] at h
        cases h
  | true =>
    rw [toggle_toggle_iff_of_commented hd h hn]
    constructor
    · exact Or.inr
    · rintro (hp | hu)
      · rw [hp.1] at h
        cases h
      · exact hu

/-- Toggling comments what is not commented and uncomments what is, and restores a line the second time
exactly if the line has one of the two canonical forms. -/
theorem toggle_restores_iff (hn : '\n' ∉ line) (p : Nat) :
    d.toggle p line = (if d.isCommented line = true then d.uncomment line else d.comment p line) ∧
      (d.OpensVisibly →
        (d.toggle p (d.toggle p line) = line ↔ d.Plain line ∨ ∃ u, d.Plain u ∧ line = d.comment p u)) :=
  ⟨toggle_eq_ite hn, fun hd => toggle_toggle_iff hd hn⟩

theorem toggle_restores_layered : '\n' ∉ "  /* a /* b */".toList ∧ css.OpensVisibly ∧
    css.toggle 1 "  /* a /* b */".toList = css.uncomment "  /* a /* b */".toList ∧
    css.toggle 1 (css.toggle 1 "  /* a /* b */".toList) = "  /* a /* b */".toList := by
  have hn : '\n' ∉ "  /* a /* b */".toList := by decide
  obtain ⟨hcases, hback⟩ := toggle_restores_iff (d := css) hn 1
  refine ⟨hn, solid_css.visible, hcases, (hback solid_css.visible).mpr (Or.inr ⟨"  a /* b".toList, ?_⟩)⟩
  decide

end CommentBlocks.Delimiters

namespace CommentBlocks.Action

open Text

variable {a : Action} {d : Delimiters} {p : Nat} {line : Text} {c : Char}

lemma apply_eq_comment_or_uncomment (a : Action) (d : Delimiters) (p : Nat) (line : Text) :
    a.apply d p line = d.comment p line ∨ a.apply d p line = d.uncomment line := by
  cases a with
  | comment => exact Or.inl rfl
  | uncomment => exact Or.inr rfl
  | toggle =>
    rw [apply, Delimiters.toggle]
    exact ite_eq_or_eq _ _ _

lemma mem_apply (h : c ∈ a.apply d p line) : c ∈ line ∨ c = ' ' ∨ c ∈ d.opening ∨ c ∈ d.closing := by
  rcases apply_eq_comment_or_uncomment a d p line with he | he
  · rw [he] at h
    exact Delimiters.mem_comment h
  · rw [he] at h
    exact Or.inl (Delimiters.mem_of_mem_uncomment h)

lemma not_mem_apply (hd : d.Solid) (hb : isBlank c = true) (hs : c ≠ ' ') (h : c ∉ line) :
    c ∉ a.apply d p line := by
  intro hm
  rcases mem_apply hm with hc | hc | hc | hc
  · exact h hc
  · exact hs hc
  · exact not_mem_of_solid hb hd.opening hc
  · exact not_mem_of_solid hb hd.closing hc

end CommentBlocks.Action
