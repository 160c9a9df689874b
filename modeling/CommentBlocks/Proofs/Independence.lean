import CommentBlocks.Proofs.Refusals

namespace CommentBlocks

open Text

namespace Action

variable {a : Action} {d : Delimiters} {p : Nat} {line : Text}

lemma apply_eq_of_padding_free (h : a = .uncomment ∨ d.isCommented line = true) (p q : Nat) :
    a.apply d p line = a.apply d q line := by
  rcases h with rfl | h
  · rfl
  · cases a with
    | comment => simp only [apply, Delimiters.comment_of_commented h]
    | uncomment => rfl
    | toggle => simp only [apply, Delimiters.toggle_of_commented h]

lemma uncomment_apply (hd : d.OpensVisibly) (ha : a ≠ .uncomment) (h : d.isCommented line = false)
    (hn : '\n' ∉ line) : d.uncomment (a.apply d p line) = indent line ++ trim line := by
  cases a with
  | comment => exact Delimiters.uncomment_of_comment hd h hn
  | uncomment => exact absurd rfl ha
  | toggle => rw [apply, Delimiters.toggle_of_not_commented h hn, Delimiters.uncomment_of_comment hd h hn]

end Action

namespace Document

open Lines

variable {o o' : Options} {content line out out' : Text} {lines : List Text} {d : Directive} {i : Nat}

structure Related (o o' : Options) (lines : List Text) (i : Nat) (line out out' : Text) : Prop where
  outside : ¬ OpenBefore lines i → (∀ d, ¬ Opens lines i d) → out = out'
  opener : ∀ d, Opens lines i d →
    out = (if o.removeDirectiveLines then [] else line) ∧ out' = if o'.removeDirectiveLines then [] else line
  closer : OpenBefore lines i → Directive.isEnd line = true →
    out = (if o.removeDirectiveLines then [] else line) ∧ out' = if o'.removeDirectiveLines then [] else line
  inside : OpenBefore lines i → Directive.isEnd line = false →
    ∃ j d, LastOpener lines i j d ∧
      (d.action = .uncomment ∨ d.delimiters.isCommented line = true → out = out') ∧
      (d.action ≠ .uncomment → d.delimiters.isCommented line = false →
        d.delimiters.uncomment out = d.delimiters.uncomment out')

lemma Opens.opensVisibly (h : Opens lines i d) : d.delimiters.OpensVisibly := by
  obtain ⟨line, _, hd⟩ := h.2
  obtain ⟨spec, hne, hs, he⟩ := Directive.exists_spec_of_read hd
  rw [he]
  exact (Delimiters.solid_ofSpec hne hs).visible

lemma Rendered.related (h : Rendered o lines i line out) (h' : Rendered o' lines i line out') (hn : '\n' ∉ line) :
    Related o o' lines i line out out' where
  outside ho hd := (h.outside ho hd).trans (h'.outside ho hd).symm
  opener d hd := ⟨h.opener d hd, h'.opener d hd⟩
  closer ho he := ⟨h.closer ho he, h'.closer ho he⟩
  inside ho he := by
    obtain ⟨j, d, hl, rfl⟩ := h.inside ho he
    obtain ⟨j', d', hl', rfl⟩ := h'.inside ho he
    obtain ⟨rfl, rfl⟩ := hl.unique hl'
    have hv := hl.2.1.opensVisibly
    refine ⟨j, d, hl, fun hc => Action.apply_eq_of_padding_free hc _ _, fun ha hc => ?_⟩
    rw [Action.uncomment_apply hv ha hc hn, Action.uncomment_apply hv ha hc hn]

lemma rendered_rewrite (hl : (split content)[i]? = some line)
    (ho : ((lineRoles content).map fun x => x.2.rewrite o x.1)[i]? = some out) :
    Rendered o (split content) i line out := by
  obtain ⟨hi, _⟩ := List.getElem?_eq_some_iff.mp hl
  rw [List.getElem?_map, getElem?_lineRoles, hl] at ho
  obtain rfl := Option.some.inj ho
  exact rendered_of_tracks (tracks_blockBefore hi.le) hl

structure LinesOf (content : Text) (out : Outcome) (lines : List Text) : Prop where
  joined : out.content = join (LineEnding.detect content) lines
  length : lines.length = (split content).length
  free : ∀ line ∈ lines, '\n' ∉ line

lemma linesOf_rewrite (o : Options) (content : Text) (ws : List Warning) :
    LinesOf content ⟨join (LineEnding.detect content) ((lineRoles content).map fun x => x.2.rewrite o x.1), ws⟩
      ((lineRoles content).map fun x => x.2.rewrite o x.1) :=
  ⟨rfl, by rw [List.length_map, lineRoles, length_roles], newline_not_mem_rewrite o content⟩

lemma exists_error_or_not_rejected (content : Text) :
    (∃ e, ∀ o, transform o content = .error e) ∨ ∀ x ∈ lineRoles content, ∀ e, x.2 ≠ .rejected e := by
  cases hf : (lineRoles content).findSome? (fun x => x.2.refusal?) with
  | some e => exact Or.inl ⟨e, fun _ => transform_eq_error_iff.mpr hf⟩
  | none =>
    refine Or.inr fun x hx e he => ?_
    have hn := List.findSome?_eq_none_iff.mp hf x hx
    rw [Role.refusal?_eq_some_iff.mpr he] at hn
    cases hn

/-- The options decide neither whether a document is refused nor what is warned of, and they change no line but
those that open or close a block and those that get commented. -/
theorem transform_independent (o o' : Options) (content : Text) :
    (∃ e, transform o content = .error e ∧ transform o' content = .error e) ∨
      ∃ out out' ls ls', (transform o content = .ok out ∧ transform o' content = .ok out') ∧
        out.warnings = out'.warnings ∧ (LinesOf content out ls ∧ LinesOf content out' ls') ∧
        ∀ (i : Nat) (line l l' : Text), (split content)[i]? = some line → ls[i]? = some l → ls'[i]? = some l' →
          Related o o' (split content) i line l l' := by
  rcases exists_error_or_not_rejected content with ⟨e, he⟩ | hr
  · exact Or.inl ⟨e, he o, he o'⟩
  · refine Or.inr ⟨_, _, _, _, ⟨transform_eq_ok_iff.mpr ⟨hr, rfl⟩, transform_eq_ok_iff.mpr ⟨hr, rfl⟩⟩, rfl,
      ⟨linesOf_rewrite o content _, linesOf_rewrite o' content _⟩, fun i line l l' hl ho ho' => ?_⟩
    have hn := newline_not_mem_of_mem_split (List.mem_of_getElem? hl)
    exact (rendered_rewrite hl ho).related (rendered_rewrite hl ho') hn

theorem transform_independent_css :
    (transform ⟨false, 1⟩ "<!--comments:toggle css-->\n /*b*/\n a".toList =
          .ok ⟨"<!--comments:toggle css-->\n b\n /* a */".toList, [⟨.toggle, 1⟩]⟩ ∧
        transform ⟨true, 0⟩ "<!--comments:toggle css-->\n /*b*/\n a".toList =
          .ok ⟨"\n b\n /*a*/".toList, [⟨.toggle, 1⟩]⟩) ∧
      ∃ ls ls', Lines.join .lf ls = "<!--comments:toggle css-->\n b\n /* a */".toList ∧
        Lines.join .lf ls' = "\n b\n /*a*/".toList ∧
        ∀ (i : Nat) (line l l' : Text),
          ["<!--comments:toggle css-->".toList, " /*b*/".toList, " a".toList][i]? = some line →
            ls[i]? = some l → ls'[i]? = some l' →
          Related ⟨false, 1⟩ ⟨true, 0⟩ ["<!--comments:toggle css-->".toList, " /*b*/".toList, " a".toList]
            i line l l' := by
  have h : transform ⟨false, 1⟩ "<!--comments:toggle css-->\n /*b*/\n a".toList =
      .ok ⟨"<!--comments:toggle css-->\n b\n /* a */".toList, [⟨.toggle, 1⟩]⟩ := rfl
  have h' : transform ⟨true, 0⟩ "<!--comments:toggle css-->\n /*b*/\n a".toList =
      .ok ⟨"\n b\n /*a*/".toList, [⟨.toggle, 1⟩]⟩ := rfl
  refine ⟨⟨h, h'⟩, ?_⟩
  rcases transform_independent ⟨false, 1⟩ ⟨true, 0⟩ "<!--comments:toggle css-->\n /*b*/\n a".toList with
    ⟨e, he, _⟩ | ⟨out, out', ls, ls', ⟨ho, ho'⟩, _, ⟨hls, hls'⟩, hr⟩
  · rw [h] at he
    cases he
  · obtain rfl := Except.ok.inj (h.symm.trans ho)
    obtain rfl := Except.ok.inj (h'.symm.trans ho')
    exact ⟨ls, ls', hls.joined.symm, hls'.joined.symm, hr⟩

end Document
end CommentBlocks
