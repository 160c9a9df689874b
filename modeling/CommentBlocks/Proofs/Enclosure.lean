import CommentBlocks.Proofs.Conservation

namespace CommentBlocks.Delimiters

open Text

variable {d : Delimiters} {p : Nat} {line spec : Text} {x : Detection}

def Encloses (d : Delimiters) (line : Text) : Prop :=
  d.opening <+: trim line ∧ d.closing <:+ trim line

instance (d : Delimiters) (line : Text) : Decidable (d.Encloses line) :=
  inferInstanceAs (Decidable (_ ∧ _))

lemma solid_of_paired (hc : (ofSpec spec).closing ≠ []) : (ofSpec spec).Solid := by
  simp only [ofSpec] at hc ⊢
  split_ifs at hc ⊢
  · exact solid_html
  · exact solid_css
  · exact absurd rfl hc

lemma trim_of_detect? (hd : d.Solid) (hc : d.closing ≠ []) (h : d.detect? line = some x) (hr : Blank x.rest) :
    trim line = d.opening ++ (x.body ++ d.closing) := by
  obtain ⟨c, o, ho, hv⟩ := hd.visible
  have hline : line = x.indent ++ ((d.opening ++ (x.body ++ d.closing)) ++ x.rest) := by
    simpa only [List.append_assoc] using eq_of_detect? h
  have hstart : trimStart (d.opening ++ (x.body ++ d.closing)) = d.opening ++ (x.body ++ d.closing) := by
    rw [ho, List.cons_append, trimStart_cons hv]
  rw [hline, trim_append_left (blank_indent_of_detect? h), trim_append_right hr, trim, hstart, ← List.append_assoc,
    trimEnd_append_solid hd.closing hc]

lemma exists_trim_of_suffix (hd : d.Solid) (hc : d.closing ≠ []) (h : d.isCommented line = true) (hn : '\n' ∉ line)
    (hs : d.closing <:+ trimEnd line) : ∃ m, trim line = d.opening ++ (m ++ d.closing) := by
  obtain ⟨x, hx⟩ := exists_detect?_of_commented h
  have hr : Blank x.rest := squash_eq_nil_iff.mp ((squash_rest_eq_nil_iff hd hx hn).mpr hs)
  exact ⟨x.body, trim_of_detect? hd hc hx hr⟩

lemma encloses_of_trim {m : Text} (h : trim line = d.opening ++ (m ++ d.closing)) : d.Encloses line := by
  rw [Encloses, h]
  refine ⟨List.prefix_append _ _, ?_⟩
  rw [← List.append_assoc]
  exact List.suffix_append _ _

lemma encloses_iff_suffix_trimEnd (hd : d.Solid) (hc : d.closing ≠ []) (h : d.isCommented line = true)
    (hn : '\n' ∉ line) : d.Encloses line ↔ d.closing <:+ trimEnd line := by
  constructor
  · intro he
    exact suffix_trimEnd_of_suffix_trim hd.closing hc he.2
  · intro hs
    obtain ⟨m, hm⟩ := exists_trim_of_suffix hd hc h hn hs
    exact encloses_of_trim hm

lemma encloses_iff_exists_trim (hd : d.Solid) (hc : d.closing ≠ []) (h : d.isCommented line = true)
    (hn : '\n' ∉ line) : d.Encloses line ↔ ∃ m, trim line = d.opening ++ (m ++ d.closing) := by
  constructor
  · intro he
    apply exists_trim_of_suffix hd hc h hn
    exact (encloses_iff_suffix_trimEnd hd hc h hn).mp he
  · rintro ⟨m, hm⟩
    exact encloses_of_trim hm

lemma suffix_trimEnd_comment_iff (hd : d.Solid) (hc : d.closing ≠ []) :
    d.closing <:+ trimEnd (d.comment p line) ↔ d.isCommented line = false ∨ d.closing <:+ trimEnd line := by
  cases h : d.isCommented line with
  | true => simp only [comment_of_commented h, Bool.true_eq_false, false_or]
  | false =>
    have hend : d.closing <:+ trimEnd (d.comment p line) := by
      rw [comment_of_not_commented h]
      simp only [← List.append_assoc]
      rw [trimEnd_append_solid hd.closing hc]
      exact List.suffix_append _ _
    simp only [hend, true_or]

/-- A comment takes in the whole line, unless the line counts as commented although text follows its last closing
delimiter. -/
theorem encloses_comment_iff (hc : (ofSpec spec).closing ≠ []) (hn : '\n' ∉ line) (p : Nat) :
    ((ofSpec spec).Encloses ((ofSpec spec).comment p line) ↔
        (ofSpec spec).isCommented line = false ∨ (ofSpec spec).closing <:+ trimEnd line) ∧
      ((ofSpec spec).Encloses ((ofSpec spec).comment p line) ↔
        ∃ m, trim ((ofSpec spec).comment p line) = (ofSpec spec).opening ++ (m ++ (ofSpec spec).closing)) := by
  have hd := solid_of_paired hc
  have hcommented := isCommented_comment (ofSpec spec) p hn
  have hnew : '\n' ∉ (ofSpec spec).comment p line :=
    Action.not_mem_apply (a := .comment) hd (by decide) (by decide) hn
  constructor
  · exact (encloses_iff_suffix_trimEnd hd hc hcommented hnew).trans (suffix_trimEnd_comment_iff hd hc)
  · exact encloses_iff_exists_trim hd hc hcommented hnew

theorem encloses_comment_two_comments :
    ((ofSpec "CsS".toList).closing ≠ [] ∧ '\n' ∉ " /* a */ b /* c */ ".toList) ∧
      (ofSpec "CsS".toList).Encloses ((ofSpec "CsS".toList).comment 1 " /* a */ b /* c */ ".toList) := by
  have hc : (ofSpec "CsS".toList).closing ≠ [] := by decide
  have hn : '\n' ∉ " /* a */ b /* c */ ".toList := by decide
  exact ⟨⟨hc, hn⟩, (encloses_comment_iff hc hn 1).1.mpr (Or.inr (by decide))⟩

theorem not_encloses_comment_trailing_text :
    (ofSpec "css".toList).comment 1 "/* a */ b".toList = "/* a */ b".toList ∧
      ¬ (ofSpec "css".toList).Encloses ((ofSpec "css".toList).comment 1 "/* a */ b".toList) := by
  decide

end CommentBlocks.Delimiters
