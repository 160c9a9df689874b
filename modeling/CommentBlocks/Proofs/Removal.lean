import CommentBlocks.Proofs.SecondPass
import CommentBlocks.Proofs.Starts

/-! Removing the directive lines. Where no line holds a start directive no block is ever opened, so
transforming such a content changes nothing but its line breaks. A pass that blanks the lines that open and
close blocks leaves a content of this kind, unless a start directive stood inside a block or was made there. -/

namespace CommentBlocks.Document

open Lines Directive

variable {o : Options} {n p : Nat} {line content : Text} {lines : List Text} {out : Outcome} {x : Text × Role}

/-- In every block, the delimiters cannot be a part of a start directive, or rewriting makes none. -/
def NoNewStarts (o : Options) (content : Text) : Prop :=
  ∀ b ∈ blocks content, '<' ∉ b.delimiters.opening ∨
    ∀ x ∈ blockLines content, x.1 = b → mark? (b.apply o x.2) = none

instance (o : Options) (content : Text) : Decidable (NoNewStarts o content) :=
  inferInstanceAs (Decidable (∀ b ∈ blocks content, _))

lemma role_none_of_mark?_eq_none (h : mark? line = none) : role n none line = .outside := by
  rw [role, read_eq_ok_none_iff.mpr h]

lemma mark?_eq_none_of_outside {block : Option Block} (h : role n block line = .outside) : mark? line = none := by
  cases block with
  | some b =>
    rw [role] at h
    split at h <;> cases h
  | none =>
    rw [role] at h
    split at h
    · cases h
    · next hr => exact read_eq_ok_none_iff.mp hr
    · cases h

lemma roles_of_no_marks (h : ∀ l ∈ lines, mark? l = none) :
    roles n none lines = lines.map fun l => (l, .outside) := by
  induction lines generalizing n with
  | nil => rfl
  | cons line lines ih =>
    obtain ⟨hl, hls⟩ := List.forall_mem_cons.mp h
    have hnone : Role.outside.leaves = none := rfl
    rw [roles, role_none_of_mark?_eq_none hl, List.map_cons, hnone, ih hls]

lemma lastBlock_outside (lines : List Text) : lastBlock none (lines.map fun l => (l, Role.outside)) = none := by
  induction lines with
  | nil => rfl
  | cons line lines ih => exact ih

lemma transform_of_no_marks (o : Options) (h : ∀ l ∈ split content, mark? l = none) :
    transform o content = .ok ⟨join (LineEnding.detect content) (split content), []⟩ := by
  have hr : lineRoles content = (split content).map fun l => (l, .outside) := roles_of_no_marks h
  refine transform_eq_ok_iff.mpr ⟨?_, ?_⟩
  · rw [hr]
    intro x hx e
    obtain ⟨l, _, rfl⟩ := List.mem_map.mp hx
    exact Role.noConfusion
  · rw [unclosed, hr, lastBlock_outside, List.map_map]
    simp only [Function.comp_def, Role.rewrite, List.map_id', Option.map_none, Option.toList_none]

lemma mark?_apply_of_noNewStarts {b : Block} (h : NoNewStarts o content)
    (hl : (line, .inside b) ∈ lineRoles content) (hm : mark? line = none) : mark? (b.apply o line) = none := by
  have hx := mem_blockLines.mpr hl
  have hb := mem_blocks_of_mem_blockLines hx
  rcases h b hb with ho | hn
  · exact mark?_apply_eq_none ho (closing_of_mem_blocks hb ho) hm
  · exact hn (b, line) hx rfl

lemma mark?_rewrite_eq_none (ho : o.removeDirectiveLines = true) (hl : ∀ x ∈ blockLines content, mark? x.2 = none)
    (he : NoNewStarts o content) (hx : x ∈ lineRoles content) (hr : ∀ e, x.2 ≠ .rejected e) :
    mark? (x.2.rewrite o x.1) = none := by
  obtain ⟨line, r⟩ := x
  have hblank : mark? (directiveLine o line) = none := by
    rw [directiveLine, if_pos ho]
    decide
  cases r with
  | outside =>
    obtain ⟨m, before, hm⟩ := exists_role_of_mem_roles hx
    exact mark?_eq_none_of_outside hm
  | rejected e => exact absurd rfl (hr e)
  | opener b => exact hblank
  | closer b => exact hblank
  | inside b => exact mark?_apply_of_noNewStarts he hx (hl (b, line) (mem_blockLines.mpr hx))

lemma join_split_of_transform (hc : ReturnsInBreaks content) (h : transform o content = .ok out) :
    join (LineEnding.detect out.content) (split out.content) = out.content := by
  obtain ⟨_, rfl⟩ := transform_eq_ok_iff.mp h
  have hs := separable_rewrite o (LineEnding.detect content) hc
  exact join_split ((uses_join_iff hs.1).mpr hs.2)

/-- After a pass that removes the directive lines nothing is left to do, whatever the options. -/
theorem transform_of_removed (hc : ReturnsInBreaks content) (h : transform ⟨true, p⟩ content = .ok out)
    (hl : ∀ x ∈ blockLines content, mark? x.2 = none) (he : NoNewStarts ⟨true, p⟩ content) :
    (∀ l ∈ split out.content, mark? l = none) ∧ ∀ o, transform o out.content = .ok ⟨out.content, []⟩ := by
  have hm : ∀ l ∈ split out.content, mark? l = none := by
    rw [split_of_transform hc h]
    intro l hl'
    obtain ⟨x, hx, rfl⟩ := List.mem_map.mp hl'
    exact mark?_rewrite_eq_none rfl hl he hx ((transform_eq_ok_iff.mp h).1 x hx)
  refine ⟨hm, fun o => ?_⟩
  rw [transform_of_no_marks o hm, join_split_of_transform hc h]

theorem transform_of_removed_html :
    ReturnsInBreaks
      "<!--comments:toggle html-->\r\n a\n<!--endcomments-->\n<!--comments:comment css-->\nb".toList ∧
      transform ⟨true, 1⟩
          "<!--comments:toggle html-->\r\n a\n<!--endcomments-->\n<!--comments:comment css-->\nb".toList =
        .ok ⟨"\r\n <!-- a -->\r\n\r\n\r\n/* b */".toList, [⟨.comment, 4⟩]⟩ ∧
      transform ⟨false, 7⟩ "\r\n <!-- a -->\r\n\r\n\r\n/* b */".toList =
        .ok ⟨"\r\n <!-- a -->\r\n\r\n\r\n/* b */".toList, []⟩ := by
  have hc : ReturnsInBreaks
      "<!--comments:toggle html-->\r\n a\n<!--endcomments-->\n<!--comments:comment css-->\nb".toList := by decide
  have h : transform ⟨true, 1⟩
        "<!--comments:toggle html-->\r\n a\n<!--endcomments-->\n<!--comments:comment css-->\nb".toList =
      .ok ⟨"\r\n <!-- a -->\r\n\r\n\r\n/* b */".toList, [⟨.comment, 4⟩]⟩ := rfl
  exact ⟨hc, h, (transform_of_removed hc h (by decide) (by decide)).2 ⟨false, 7⟩⟩

end CommentBlocks.Document
