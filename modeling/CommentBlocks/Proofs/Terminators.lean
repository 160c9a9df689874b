import CommentBlocks.Proofs.Roles

namespace CommentBlocks

open Text

namespace Directive

variable {a b s : Text}

def EndAtEdge (a s b : Text) : Prop :=
  ∃ u f v, a ++ (s ++ b) = u ++ (f ++ v) ∧ EndMark f ∧ (u.length < a.length ∨ v.length < b.length)

lemma infix_of_length_le {u f v : Text} (h : a ++ (s ++ b) = u ++ (f ++ v)) (hu : a.length ≤ u.length)
    (hv : b.length ≤ v.length) : f <:+: s := by
  obtain ⟨u', rfl⟩ := List.prefix_of_prefix_length_le ⟨_, h⟩ (List.prefix_append u _) hu
  rw [List.append_assoc] at h
  have hs : s ++ b = u' ++ f ++ v := by
    rw [List.append_assoc]
    exact List.append_cancel_left h
  obtain ⟨v', rfl⟩ := List.suffix_of_suffix_length_le ⟨_, hs⟩ (List.suffix_append _ v) hv
  exact ⟨u', v', List.append_cancel_right (by rw [hs, List.append_assoc])⟩

lemma isEnd_frame_iff : isEnd (a ++ (s ++ b)) = true ↔ isEnd s = true ∨ EndAtEdge a s b := by
  constructor
  · intro h
    obtain ⟨f, hf, u, v, hi⟩ := isEnd_iff.mp h
    rw [List.append_assoc] at hi
    by_cases hedge : u.length < a.length ∨ v.length < b.length
    · exact Or.inr ⟨u, f, v, hi.symm, hf, hedge⟩
    · rw [not_or, Nat.not_lt, Nat.not_lt] at hedge
      exact Or.inl (isEnd_iff.mpr ⟨f, hf, infix_of_length_le hi.symm hedge.1 hedge.2⟩)
  · rintro (h | ⟨u, f, v, hi, hf, _⟩)
    · exact isEnd_of_isInfix ⟨a, b, List.append_assoc a s b⟩ h
    · exact isEnd_iff.mpr ⟨f, hf, u, v, by rw [hi, List.append_assoc]⟩

end Directive

open Directive

def Action.MakesEnd (a : Action) (d : Delimiters) (p : Nat) (line : Text) : Prop :=
  a ≠ uncomment ∧ d.isCommented line = false ∧ EndAtEdge (Text.indent line ++ d.opening) (d.inner p line) d.closing

variable {a : Action} {d : Delimiters} {p : Nat} {line : Text}

lemma isEnd_comment_iff (he : isEnd line = false) (h : d.isCommented line = false) :
    isEnd (d.comment p line) = true ↔
      EndAtEdge (Text.indent line ++ d.opening) (d.inner p line) d.closing := by
  rw [Delimiters.comment_of_not_commented h, ← List.append_assoc, isEnd_frame_iff]
  constructor
  · rintro (hi | hedge)
    · rw [isEnd_of_isEnd_inner hi] at he
      cases he
    · exact hedge
  · exact Or.inr

lemma isEnd_uncomment_eq_false (he : isEnd line = false) : isEnd (d.uncomment line) = false := by
  rw [Bool.eq_false_iff] at he ⊢
  exact fun h => he (isEnd_of_isEnd_uncomment h)

lemma Action.isEnd_apply_iff_makesEnd (hn : '\n' ∉ line) (he : isEnd line = false) :
    isEnd (a.apply d p line) = true ↔ a.MakesEnd d p line := by
  have hu := isEnd_uncomment_eq_false (d := d) he
  cases h : d.isCommented line with
  | true =>
    have hkeep : isEnd (a.apply d p line) = false := by
      cases a with
      | comment => rwa [apply, Delimiters.comment_of_commented h]
      | uncomment => exact hu
      | toggle => rwa [apply, Delimiters.toggle_of_commented h]
    simp only [hkeep, MakesEnd, h, Bool.false_eq_true, Bool.true_eq_false, false_and, and_false]
  | false =>
    have hc := isEnd_comment_iff (p := p) he h
    cases a with
    | comment => simp only [apply, hc, MakesEnd, h, ne_eq, reduceCtorEq, not_false_eq_true, true_and]
    | uncomment => simp only [apply, hu, MakesEnd, Bool.false_eq_true, ne_eq, not_true_eq_false, false_and]
    | toggle =>
      rw [apply, Delimiters.toggle_of_not_commented h hn]
      simp only [hc, MakesEnd, h, ne_eq, reduceCtorEq, not_false_eq_true, true_and]

namespace Document

variable {o : Options} {content : Text} {out : Outcome} {b : Block} {i : Nat} {line' : Text}

lemma exists_role_of_getElem?_split (h : transform o content = .ok out)
    (hl : (Lines.split out.content)[i]? = some line') :
    ∃ x, (lineRoles content)[i]? = some x ∧ line' <+: x.2.rewrite o x.1 := by
  obtain ⟨_, rfl⟩ := transform_eq_ok_iff.mp h
  obtain ⟨l, hl, hp⟩ := Lines.exists_getElem?_of_split_join (map_lineRoles_ne_nil _ content)
    (newline_not_mem_rewrite o content) hl
  rw [List.getElem?_map, Option.map_eq_some_iff] at hl
  obtain ⟨x, hx, rfl⟩ := hl
  exact ⟨x, hx, hp⟩

lemma makesEnd_of_isEnd_split (h : transform o content = .ok out)
    (hr : (lineRoles content)[i]? = some (line, .inside b)) (hl : (Lines.split out.content)[i]? = some line')
    (he : isEnd line' = true) : b.action.MakesEnd b.delimiters o.padding line := by
  obtain ⟨x, hx, hp⟩ := exists_role_of_getElem?_split h hl
  obtain rfl := Option.some.inj (hr.symm.trans hx)
  have hm := List.mem_of_getElem? hr
  have hn := Lines.newline_not_mem_of_mem_split (mem_lines_of_mem_roles hm)
  exact (Action.isEnd_apply_iff_makesEnd hn (isEnd_of_inside_mem hm)).mp (isEnd_of_isInfix hp.isInfix he)

end Document

/-- Rewriting makes an end directive of a line exactly when it completes one with the delimiters that it puts
on, for which the opening one has to hold a `<`. Of the lines inside a block, a second pass can take no others
for the end of a block. -/
theorem isEnd_apply_iff :
    (∀ (a : Action) (spec : Text) (p : Nat) (line : Text), '\n' ∉ line → isEnd line = false →
        (isEnd (a.apply (Delimiters.ofSpec spec) p line) = true ↔ a.MakesEnd (Delimiters.ofSpec spec) p line) ∧
        (a.MakesEnd (Delimiters.ofSpec spec) p line → '<' ∈ (Delimiters.ofSpec spec).opening)) ∧
    (∀ (o : Options) (content : Text) (out : Outcome), Document.transform o content = .ok out →
      ∀ (i : Nat) (line line' : Text) (b : Document.Block),
        (Document.lineRoles content)[i]? = some (line, .inside b) → (Lines.split out.content)[i]? = some line' →
          isEnd line' = true → b.action.MakesEnd b.delimiters o.padding line) := by
  refine ⟨fun a spec p line hn he => ⟨Action.isEnd_apply_iff_makesEnd hn he, fun hm => ?_⟩,
    fun o content out h i line line' b hr hl he => Document.makesEnd_of_isEnd_split h hr hl he⟩
  by_contra ho
  have hend := (Action.isEnd_apply_iff_makesEnd hn he).mpr hm
  rw [isEnd_of_isEnd_apply ho (not_mem_closing_of_not_mem_opening ho) hend] at he
  cases he

theorem isEnd_apply_toggle_html :
    ('\n' ∉ "endcomments".toList ∧ isEnd "endcomments".toList = false) ∧
      Action.toggle.MakesEnd (Delimiters.ofSpec "html".toList) 1 "endcomments".toList ∧
      '<' ∈ (Delimiters.ofSpec "html".toList).opening ∧
      Document.transform ⟨false, 0⟩ "<!--comments:comment <!-- -->\nendcomments -->".toList =
        .ok ⟨"<!--comments:comment <!-- -->\n<!--endcomments -->".toList, [⟨.comment, 1⟩]⟩ ∧
      Action.comment.MakesEnd ⟨"<!--".toList, []⟩ 0 "endcomments -->".toList := by
  have hline := isEnd_apply_iff.1 .toggle "html".toList 1 "endcomments".toList (by decide) (by decide)
  have hmakes := hline.1.mp (by decide)
  have h : Document.transform ⟨false, 0⟩ "<!--comments:comment <!-- -->\nendcomments -->".toList =
      .ok ⟨"<!--comments:comment <!-- -->\n<!--endcomments -->".toList, [⟨.comment, 1⟩]⟩ := rfl
  exact ⟨by decide, hmakes, hline.2 hmakes, h,
    isEnd_apply_iff.2 _ _ _ h 1 "endcomments -->".toList "<!--endcomments -->".toList
      ⟨.comment, ⟨"<!--".toList, []⟩, 1⟩ rfl rfl (by decide)⟩

theorem isEnd_comment_html_endcomments :
    ("html".toList ≠ [] ∧ Text.Solid "html".toList ∧ '\n' ∉ "endcomments".toList ∧
        isEnd "endcomments".toList = false) ∧
      isEnd (Action.comment.apply (Delimiters.ofSpec "html".toList) 1 "endcomments".toList) = true := by
  decide

end CommentBlocks
