import CommentBlocks.Proofs.Roles

/-! Transforming a document that was transformed before. Unless the first pass makes end directives, the
second one meets the same roles, so it comes down to rewriting each line twice. -/

namespace CommentBlocks.Document

open Lines

variable {o o' : Options} {n : Nat} {block : Option Block} {b : Block} {line content : Text}
  {lines : List Text} {out : Outcome}

/-- In every block, the delimiters cannot be a part of an end directive, or rewriting makes none. -/
def NoNewEnds (o : Options) (content : Text) : Prop :=
  ∀ b ∈ blocks content, '<' ∉ b.delimiters.opening ∨
    ∀ x ∈ blockLines content, x.1 = b → Directive.isEnd (b.apply o x.2) = false

instance (o : Options) (content : Text) : Decidable (NoNewEnds o content) :=
  inferInstanceAs (Decidable (∀ b ∈ blocks content, _))

lemma directiveLine_of_keep (ho : o.removeDirectiveLines = false) (line : Text) : directiveLine o line = line := by
  rw [directiveLine, ho]
  rfl

lemma role_rewrite (ho : o.removeDirectiveLines = false)
    (h : ∀ b, role n block line = .inside b → Directive.isEnd (b.apply o line) = false) :
    role n block ((role n block line).rewrite o line) = role n block line := by
  cases hr : role n block line with
  | inside b =>
    obtain ⟨rfl, _⟩ := role_eq_inside_iff.mp hr
    exact role_eq_inside_iff.mpr ⟨rfl, h b hr⟩
  | opener b => rw [Role.rewrite, directiveLine_of_keep ho, hr]
  | closer b => rw [Role.rewrite, directiveLine_of_keep ho, hr]
  | outside => exact hr
  | rejected e => exact hr

lemma roles_rewrite (ho : o.removeDirectiveLines = false)
    (h : ∀ b line, (line, .inside b) ∈ roles n block lines → Directive.isEnd (b.apply o line) = false) :
    roles n block ((roles n block lines).map fun x => x.2.rewrite o x.1) =
      (roles n block lines).map fun x => (x.2.rewrite o x.1, x.2) := by
  induction lines generalizing n block with
  | nil => rfl
  | cons line lines ih =>
    have hr : role n block ((role n block line).rewrite o line) = role n block line := by
      refine role_rewrite ho fun b hb => h b line ?_
      rw [roles, hb]
      exact List.mem_cons_self
    rw [roles, List.map_cons, List.map_cons, roles, hr, ih fun b l hl => h b l (List.mem_cons_of_mem _ hl)]

lemma lastBlock_map (f : Text × Role → Text) (block : Option Block) (xs : List (Text × Role)) :
    lastBlock block (xs.map fun x => (f x, x.2)) = lastBlock block xs := by
  induction xs generalizing block with
  | nil => rfl
  | cons x xs ih => exact ih x.2.leaves

lemma isEnd_apply_of_noNewEnds (h : NoNewEnds o content) (hl : (line, .inside b) ∈ lineRoles content) :
    Directive.isEnd (b.apply o line) = false := by
  have hm := mem_blockLines.mpr hl
  have hb := mem_blocks_of_mem_blockLines hm
  rcases h b hb with ho | hn
  · cases he : Directive.isEnd (b.apply o line) with
    | false => rfl
    | true =>
      have hline := Directive.isEnd_of_isEnd_apply ho (closing_of_mem_blocks hb ho) he
      rw [isEnd_of_inside_mem hl] at hline
      cases hline
  · exact hn (b, line) hm rfl

lemma separable_map {f : Text × Role → Text} (e : LineEnding) (hc : ReturnsInBreaks content)
    (hf : ∀ x ∈ lineRoles content, ∀ c, Text.isBlank c = true → c ≠ ' ' → c ∉ x.1 → c ∉ f x) :
    Separable e ((lineRoles content).map f) := by
  refine separable_of_not_mem fun l hl => ?_
  obtain ⟨x, hx, rfl⟩ := List.mem_map.mp hl
  have hline := mem_lines_of_mem_roles hx
  exact ⟨hf x hx _ (by decide) (by decide) (newline_not_mem_of_mem_split hline),
    hf x hx _ (by decide) (by decide) (return_not_mem_of_mem_split hc x.1 hline)⟩

lemma separable_rewrite (o : Options) (e : LineEnding) (hc : ReturnsInBreaks content) :
    Separable e ((lineRoles content).map fun x => x.2.rewrite o x.1) :=
  separable_map e hc fun _ hx _ hb hs => not_mem_rewrite (solid_of_inside_mem hx) hb hs

lemma split_of_transform (hc : ReturnsInBreaks content) (h : transform o content = .ok out) :
    split out.content = (lineRoles content).map fun x => x.2.rewrite o x.1 := by
  obtain ⟨_, rfl⟩ := transform_eq_ok_iff.mp h
  exact split_join (map_lineRoles_ne_nil _ _) (separable_rewrite o _ hc)

lemma detect_of_transform (hc : ReturnsInBreaks content) (h : transform o content = .ok out)
    (hm : '\n' ∈ out.content) : LineEnding.detect out.content = LineEnding.detect content := by
  obtain ⟨_, rfl⟩ := transform_eq_ok_iff.mp h
  exact detect_join (separable_rewrite o _ hc) hm

lemma lineRoles_of_transform (ho : o.removeDirectiveLines = false) (hc : ReturnsInBreaks content)
    (he : NoNewEnds o content) (h : transform o content = .ok out) :
    lineRoles out.content = (lineRoles content).map fun x => (x.2.rewrite o x.1, x.2) := by
  rw [lineRoles, split_of_transform hc h]
  exact roles_rewrite ho fun b line hl => isEnd_apply_of_noNewEnds he hl

lemma transform_of_transform (ho : o.removeDirectiveLines = false) (hc : ReturnsInBreaks content)
    (he : NoNewEnds o content) (h : transform o content = .ok out) :
    transform o' out.content =
      .ok ⟨join (LineEnding.detect content) ((lineRoles content).map fun x => x.2.rewrite o' (x.2.rewrite o x.1)),
        out.warnings⟩ := by
  have hrs := lineRoles_of_transform ho hc he h
  have hl : (lineRoles content).length = (split out.content).length := by
    rw [split_of_transform hc h, List.length_map]
  have hj := join_detect (detect_of_transform hc h)
    ((List.length_map fun x : Text × Role => x.2.rewrite o' (x.2.rewrite o x.1)).trans hl)
  obtain ⟨hr, hout⟩ := transform_eq_ok_iff.mp h
  refine transform_eq_ok_iff.mpr ⟨?_, ?_⟩
  · rw [hrs]
    intro x hx
    obtain ⟨y, hy, rfl⟩ := List.mem_map.mp hx
    exact hr y hy
  · rw [← hj, hrs, List.map_map, unclosed, hrs, lastBlock_map]
    congr 1
    rw [hout, unclosed]

variable {p q : Nat}

lemma rewrite_of_keep (ho : o.removeDirectiveLines = false) {r : Role} (h : ∀ b, r ≠ .inside b) :
    r.rewrite o line = line := by
  cases r with
  | inside b => exact absurd rfl (h b)
  | opener b => exact directiveLine_of_keep ho line
  | closer b => exact directiveLine_of_keep ho line
  | outside => rfl
  | rejected e => rfl

lemma apply_apply_of_settled (hn : '\n' ∉ line) (ha : b.action = .comment ∨ b.action = .uncomment)
    (hu : b.action = .uncomment → b.delimiters.isCommented (b.delimiters.uncomment line) = false) :
    b.apply o' (b.apply o line) = b.apply o line := by
  rcases ha with ha | ha
  · simp only [Block.apply, ha, Action.apply]
    exact Delimiters.comment_of_commented (Delimiters.isCommented_comment _ _ hn)
  · simp only [Block.apply, ha, Action.apply]
    exact Delimiters.uncomment_of_not_commented (hu ha)

/-- A second pass over blocks that comment or uncomment changes nothing, whatever its padding. -/
theorem transform_transform_of_settled (hc : ReturnsInBreaks content)
    (h : transform ⟨false, p⟩ content = .ok out)
    (ha : ∀ b ∈ blocks content, b.action = .comment ∨ b.action = .uncomment)
    (hu : ∀ x ∈ blockLines content, x.1.action = .uncomment →
      x.1.delimiters.isCommented (x.1.delimiters.uncomment x.2) = false)
    (he : NoNewEnds ⟨false, p⟩ content) :
    transform ⟨false, q⟩ out.content = .ok out := by
  rw [transform_of_transform rfl hc he h]
  obtain ⟨_, hout⟩ := transform_eq_ok_iff.mp h
  have hl : ∀ x ∈ lineRoles content,
      x.2.rewrite ⟨false, q⟩ (x.2.rewrite ⟨false, p⟩ x.1) = x.2.rewrite ⟨false, p⟩ x.1 := by
    rintro ⟨line, r⟩ hx
    cases r with
    | inside b =>
      have hm := mem_blockLines.mpr hx
      have hn := newline_not_mem_of_mem_split (mem_split_of_mem_blockLines hm)
      exact apply_apply_of_settled hn (ha b (mem_blocks_of_mem_blockLines hm)) (hu _ hm)
    | _ => exact rewrite_of_keep rfl (by simp)
  rw [List.map_congr_left hl]
  congr 1
  rw [hout]

theorem transform_transform_html :
    transform ⟨false, 1⟩
          "<!--comments:comment html-->\n a\r\n<!--endcomments-->\n<!--comments:uncomment #-->\n# b".toList =
        .ok
          ⟨"<!--comments:comment html-->\n <!-- a -->\n<!--endcomments-->\n<!--comments:uncomment #-->\nb".toList,
          [⟨.uncomment, 4⟩]⟩ ∧
      transform ⟨false, 3⟩
          "<!--comments:comment html-->\n <!-- a -->\n<!--endcomments-->\n<!--comments:uncomment #-->\nb".toList =
        .ok
          ⟨"<!--comments:comment html-->\n <!-- a -->\n<!--endcomments-->\n<!--comments:uncomment #-->\nb".toList,
          [⟨.uncomment, 4⟩]⟩ := by
  have h : transform ⟨false, 1⟩
        "<!--comments:comment html-->\n a\r\n<!--endcomments-->\n<!--comments:uncomment #-->\n# b".toList =
      .ok ⟨"<!--comments:comment html-->\n <!-- a -->\n<!--endcomments-->\n<!--comments:uncomment #-->\nb".toList,
        [⟨.uncomment, 4⟩]⟩ := rfl
  exact ⟨h, transform_transform_of_settled (by decide) h (by decide) (by decide) (by decide)⟩

lemma apply_apply_toggle_iff (hb : b.delimiters.OpensVisibly) (hn : '\n' ∉ line) (ha : b.action = .toggle) :
    b.apply ⟨false, p⟩ (b.apply ⟨false, p⟩ line) = line ↔
      b.delimiters.Plain line ∨ ∃ u, b.delimiters.Plain u ∧ line = b.delimiters.comment p u := by
  simp only [Block.apply, ha, Action.apply]
  exact Delimiters.toggle_toggle_iff hb hn

lemma join_inj {e : LineEnding} {xs ys : List Text} (hx : xs ≠ []) (hy : ys ≠ []) (hsx : Separable e xs)
    (hsy : Separable e ys) : join e xs = join e ys ↔ xs = ys := by
  constructor
  · intro h
    rw [← split_join hx hsx, h, split_join hy hsy]
  · rintro rfl
    rfl

lemma join_twice_eq_iff {e : LineEnding} (hl : Uses e content) (hc : ReturnsInBreaks content) :
    join (LineEnding.detect content)
        ((lineRoles content).map fun x => x.2.rewrite o (x.2.rewrite o x.1)) = content ↔
      ∀ x ∈ lineRoles content, x.2.rewrite o (x.2.rewrite o x.1) = x.1 := by
  have hfst : (lineRoles content).map Prod.fst = split content := map_fst_roles 1 none (split content)
  have htwice : Separable (LineEnding.detect content)
      ((lineRoles content).map fun x => x.2.rewrite o (x.2.rewrite o x.1)) := by
    refine separable_map _ hc fun x hx c hb hs hm => ?_
    have hd := solid_of_inside_mem hx
    exact not_mem_rewrite hd hb hs (not_mem_rewrite hd hb hs hm)
  have honce : Separable (LineEnding.detect content) ((lineRoles content).map Prod.fst) :=
    separable_map _ hc fun x _ c _ _ hm => hm
  conv_lhs => rhs; rw [← join_split hl, ← hfst]
  rw [join_inj (map_lineRoles_ne_nil _ _) (map_lineRoles_ne_nil _ _) htwice honce, List.map_inj_left]

/-- Toggling all blocks twice gives the document back iff each line in a block is canonical: it is
uncommented without blanks at its end, or it is what commenting makes of such a line. -/
theorem transform_toggle_twice_iff {e : LineEnding} (hl : Uses e content) (hc : ReturnsInBreaks content)
    (h : transform ⟨false, p⟩ content = .ok out) (ha : ∀ b ∈ blocks content, b.action = .toggle)
    (he : NoNewEnds ⟨false, p⟩ content) :
    ∃ out', transform ⟨false, p⟩ out.content = .ok out' ∧
      (out'.content = content ↔ ∀ x ∈ blockLines content,
        x.1.delimiters.Plain x.2 ∨ ∃ u, x.1.delimiters.Plain u ∧ x.2 = x.1.delimiters.comment p u) := by
  refine ⟨_, transform_of_transform rfl hc he h, ?_⟩
  rw [join_twice_eq_iff hl hc]
  have hline : ∀ b line, (b, line) ∈ blockLines content →
      (b.apply ⟨false, p⟩ (b.apply ⟨false, p⟩ line) = line ↔
        b.delimiters.Plain line ∨ ∃ u, b.delimiters.Plain u ∧ line = b.delimiters.comment p u) := by
    intro b line hm
    have hb := mem_blocks_of_mem_blockLines hm
    have hn := newline_not_mem_of_mem_split (mem_split_of_mem_blockLines hm)
    exact apply_apply_toggle_iff (solid_of_mem_blocks hb).visible hn (ha b hb)
  constructor
  · rintro hr ⟨b, line⟩ hm
    exact (hline b line hm).mp (hr (line, .inside b) (mem_blockLines.mp hm))
  · rintro hr ⟨line, r⟩ hx
    cases r with
    | inside b =>
      have hm := mem_blockLines.mpr hx
      exact (hline b line hm).mpr (hr (b, line) hm)
    | _ =>
      rw [rewrite_of_keep rfl (by simp)]
      exact rewrite_of_keep rfl (by simp)

theorem transform_toggle_twice_slashes :
    transform ⟨false, 1⟩ "<!--comments:toggle //-->\n  a\n  // b\n<!--endcomments-->".toList =
        .ok ⟨"<!--comments:toggle //-->\n  // a\n  b\n<!--endcomments-->".toList, []⟩ ∧
      ∃ out',
        transform ⟨false, 1⟩ "<!--comments:toggle //-->\n  // a\n  b\n<!--endcomments-->".toList = .ok out' ∧
        out'.content = "<!--comments:toggle //-->\n  a\n  // b\n<!--endcomments-->".toList := by
  have hu : Uses .lf "<!--comments:toggle //-->\n  a\n  // b\n<!--endcomments-->".toList := by decide
  have hscan : scan ⟨false, 1⟩ 1 none
        ["<!--comments:toggle //-->".toList, "  a".toList, "  // b".toList, "<!--endcomments-->".toList] =
      .ok (["<!--comments:toggle //-->".toList, "  // a".toList, "  b".toList, "<!--endcomments-->".toList],
        none) := rfl
  have h : transform ⟨false, 1⟩ "<!--comments:toggle //-->\n  a\n  // b\n<!--endcomments-->".toList =
      .ok ⟨"<!--comments:toggle //-->\n  // a\n  b\n<!--endcomments-->".toList, []⟩ :=
    transform_eq_ok_iff_scan.mpr ⟨_, _, hscan, rfl⟩
  have hl : blockLines "<!--comments:toggle //-->\n  a\n  // b\n<!--endcomments-->".toList =
      [(⟨.toggle, ⟨"//".toList, []⟩, 1⟩, "  a".toList),
        (⟨.toggle, ⟨"//".toList, []⟩, 1⟩, "  // b".toList)] := rfl
  obtain ⟨out', h', hout⟩ := transform_toggle_twice_iff hu (by decide) h (by decide) (by decide)
  refine ⟨h, out', h', hout.mpr ?_⟩
  rw [hl]
  rintro x hx
  rcases List.mem_cons.mp hx with rfl | hx
  · exact Or.inl (by decide)
  · obtain rfl := List.mem_singleton.mp hx
    exact Or.inr ⟨"  b".toList, by decide, by decide⟩

end CommentBlocks.Document
