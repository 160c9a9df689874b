import CommentBlocks.Proofs.Rewriting

namespace CommentBlocks

open Text

namespace Delimiters

variable {d : Delimiters} {p : Nat} {line : Text} {x : Detection}

lemma squash_indent (s : Text) : squash (Text.indent s) = [] :=
  squash_eq_nil_iff.mpr (blank_indent s)

lemma squash_inner (d : Delimiters) (p : Nat) (line : Text) : squash (d.inner p line) = squash line := by
  rw [← squash_trim, trim_inner, squash_trim]

lemma squash_comment (hd : d.Solid) (h : d.isCommented line = false) :
    squash (d.comment p line) = d.opening ++ (squash line ++ d.closing) := by
  simp only [comment_of_not_commented h, squash_append, squash_indent, squash_inner,
    squash_of_solid hd.opening, squash_of_solid hd.closing, List.nil_append]

lemma squash_of_detect? (hd : d.Solid) (h : d.detect? line = some x) :
    squash line = d.opening ++ (squash (d.uncomment line) ++ (d.closing ++ squash x.rest)) := by
  have hw : squash x.indent = [] := squash_eq_nil_iff.mpr (blank_indent_of_detect? h)
  rw [uncomment_of_detect? h, squash_append, hw, squash_trim]
  conv_lhs => rw [eq_of_detect? h]
  simp only [squash_append, hw, squash_of_solid hd.opening, squash_of_solid hd.closing, List.nil_append]

lemma length_rest_le {u b : Text} (hd : d.Solid) (h : d.detect? line = some x) (hn : '\n' ∉ line)
    (hl : line = u ++ (d.closing ++ b)) : x.rest.length ≤ b.length := by
  have he : line = (x.indent ++ (d.opening ++ x.body)) ++ (d.closing ++ x.rest) := by
    conv_lhs => rw [eq_of_detect? h]
    simp only [List.append_assoc]
  have hlen := congrArg List.length (hl.symm.trans he)
  simp only [List.length_append] at hlen
  by_contra hlt
  have hp : x.indent ++ (d.opening ++ x.body) <+: u :=
    List.prefix_of_prefix_length_le ⟨_, he.symm⟩ ⟨_, hl.symm⟩ (by simp only [List.length_append]; omega)
  obtain ⟨t, rfl⟩ := hp
  have hline : line = x.indent ++ (d.opening ++ ((x.body ++ t) ++ (d.closing ++ b))) := by
    rw [hl]
    simp only [List.append_assoc]
  have hm : '\n' ∉ x.body ++ t := by
    intro hm
    apply hn
    rw [hline]
    exact List.mem_append_right _ (List.mem_append_right _ (List.mem_append_left _ hm))
  have hlong := body_longest hd.visible h hline (blank_indent_of_detect? h) hm
  simp only [List.length_append] at hlong hlen
  omega

lemma squash_rest_eq_nil_iff (hd : d.Solid) (h : d.detect? line = some x) (hn : '\n' ∉ line) :
    squash x.rest = [] ↔ d.closing <:+ trimEnd line := by
  have he : line = ((x.indent ++ (d.opening ++ x.body)) ++ d.closing) ++ x.rest := by
    conv_lhs => rw [eq_of_detect? h]
    simp only [List.append_assoc]
  rw [squash_eq_nil_iff]
  constructor
  · intro hr
    by_cases hc : d.closing = []
    · rw [hc]
      exact List.nil_suffix
    · rw [he, trimEnd_append hr, trimEnd_append_solid hd.closing hc]
      exact List.suffix_append _ _
  · rintro ⟨u, hu⟩
    obtain ⟨b, hb, hlb⟩ := exists_blank_trimEnd line
    have hle := length_rest_le hd h hn (hlb.trans (by rw [← hu, List.append_assoc]))
    have hrest : x.rest <:+ line := ⟨_, he.symm⟩
    have hsuf : x.rest <:+ b := List.suffix_of_suffix_length_le hrest ⟨_, hlb.symm⟩ hle
    exact fun c hc => hb c (hsuf.subset hc)

/-- Blanks apart, the line is as it was, or a pair of delimiters was put on, or one was taken off. -/
def KeepsText (d : Delimiters) (line out : Text) : Prop :=
  out = line ∨ squash out = d.opening ++ (squash line ++ d.closing) ∨
    squash line = d.opening ++ (squash out ++ d.closing)

instance (d : Delimiters) (line out : Text) : Decidable (d.KeepsText line out) :=
  inferInstanceAs (Decidable (_ ∨ _ ∨ _))

lemma keepsText_comment (hd : d.Solid) (p : Nat) (line : Text) : d.KeepsText line (d.comment p line) := by
  cases h : d.isCommented line with
  | true => exact Or.inl (comment_of_commented h)
  | false => exact Or.inr (Or.inl (squash_comment hd h))

lemma keepsText_uncomment_iff (hd : d.Solid) (h : d.isCommented line = true) (hn : '\n' ∉ line) :
    d.KeepsText line (d.uncomment line) ↔ d.closing <:+ trimEnd line := by
  obtain ⟨x, hx⟩ := exists_detect?_of_commented h
  have hs := squash_of_detect? hd hx
  rw [← squash_rest_eq_nil_iff hd hx hn]
  constructor
  · have hlen := congrArg List.length hs
    have hlt := length_uncomment_lt hd.visible.ne_nil h
    obtain ⟨c, o, ho, _⟩ := hd.visible
    simp only [List.length_append, ho, List.length_cons] at hlen
    rintro (he | he | he)
    · rw [he] at hlt
      omega
    · have hlen' := congrArg List.length he
      simp only [List.length_append, ho, List.length_cons] at hlen'
      omega
    · rw [he] at hs
      have hc := List.append_cancel_left (List.append_cancel_left hs)
      exact List.self_eq_append_right.mp hc
  · intro hr
    rw [hr, List.append_nil] at hs
    exact Or.inr (Or.inr hs)

end Delimiters

namespace Action

open Delimiters

/-- Text is lost exactly when a commented line that goes on after its closing delimiter is uncommented. -/
theorem keepsText_apply_iff {spec line : Text} (hne : spec ≠ []) (hs : Text.Solid spec) (hn : '\n' ∉ line)
    (a : Action) (p : Nat) :
    (ofSpec spec).KeepsText line (a.apply (ofSpec spec) p line) ↔
      a = comment ∨ (ofSpec spec).isCommented line = false ∨ (ofSpec spec).closing <:+ trimEnd line := by
  have hd := solid_ofSpec hne hs
  cases h : (ofSpec spec).isCommented line with
  | false =>
    have hk : (ofSpec spec).KeepsText line (a.apply (ofSpec spec) p line) := by
      cases a with
      | comment => exact keepsText_comment hd p line
      | uncomment => exact Or.inl (uncomment_of_not_commented h)
      | toggle =>
        rw [apply, toggle_of_not_commented h hn]
        exact keepsText_comment hd p line
    simp only [hk, true_or, or_true]
  | true =>
    have hu := keepsText_uncomment_iff hd h hn
    cases a with
    | comment => simp only [apply, keepsText_comment hd p line, true_or]
    | uncomment => simp only [apply, hu, reduceCtorEq, Bool.true_eq_false, false_or]
    | toggle => simp only [apply, toggle_of_commented h, hu, reduceCtorEq, Bool.true_eq_false, false_or]

theorem keepsText_toggle_css :
    ("css".toList ≠ [] ∧ Text.Solid "css".toList ∧ '\n' ∉ "  /* a */ ".toList) ∧
      (ofSpec "css".toList).KeepsText "  /* a */ ".toList
        (toggle.apply (ofSpec "css".toList) 1 "  /* a */ ".toList) :=
  ⟨by decide, (keepsText_apply_iff (by decide) (by decide) (by decide) toggle 1).mpr (by decide)⟩

theorem not_keepsText_uncomment_css :
    uncomment.apply (ofSpec "css".toList) 1 "/* a */ b".toList = "a".toList ∧
      ¬ (ofSpec "css".toList).KeepsText "/* a */ b".toList
        (uncomment.apply (ofSpec "css".toList) 1 "/* a */ b".toList) := by
  decide

end Action
end CommentBlocks
