import CommentBlocks.Proofs.Roles

/-! Blocks without a scan. Which lines open a block, and before which lines a block is open, is said here of
the lines alone, by looking back at all lines above. The scan carries one block from line to line; it is always
the one that these definitions give, so the result of a transformation can be described line by line. -/

namespace CommentBlocks.Document

variable {o : Options} {content line : Text} {lines : List Text} {block : Option Block} {b : Block}
  {d d' : Directive} {i j k : Nat}

def Starts (lines : List Text) (i : Nat) (d : Directive) : Prop :=
  ∃ line, lines[i]? = some line ∧ Directive.read (i + 1) line = .ok (some d)

def Ends (lines : List Text) (i : Nat) : Prop :=
  ∃ line, lines[i]? = some line ∧ Directive.isEnd line = true

def Unbroken (lines : List Text) (j i : Nat) : Prop := ∀ k, j < k → k < i → ¬ Ends lines k

def OpenBefore (lines : List Text) (i : Nat) : Prop :=
  ∃ j, ∃ _ : j < i, (¬ OpenBefore lines j ∧ ∃ d, Starts lines j d) ∧ Unbroken lines j i
termination_by i

def Opens (lines : List Text) (i : Nat) (d : Directive) : Prop := ¬ OpenBefore lines i ∧ Starts lines i d

lemma openBefore_iff : OpenBefore lines i ↔ ∃ j d, j < i ∧ Opens lines j d ∧ Unbroken lines j i := by
  rw [OpenBefore]
  constructor
  · rintro ⟨j, hj, ⟨ho, d, hd⟩, hu⟩
    exact ⟨j, d, hj, ⟨ho, hd⟩, hu⟩
  · rintro ⟨j, d, hj, ⟨ho, hd⟩, hu⟩
    exact ⟨j, hj, ⟨ho, d, hd⟩, hu⟩

lemma Unbroken.below (h : Unbroken lines j i) (hk : k ≤ i) : Unbroken lines j k :=
  fun m hj hm => h m hj (hm.trans_le hk)

lemma unbroken_succ_iff (hj : j < i) :
    Unbroken lines j (i + 1) ↔ Unbroken lines j i ∧ ¬ Ends lines i := by
  constructor
  · intro h
    exact ⟨h.below (Nat.le_succ i), h i hj (Nat.lt_succ_self i)⟩
  · rintro ⟨h, he⟩ k hk hki
    rcases Nat.lt_succ_iff_lt_or_eq.mp hki with hlt | rfl
    · exact h k hk hlt
    · exact he

lemma ends_iff (hl : lines[i]? = some line) : Ends lines i ↔ Directive.isEnd line = true := by
  simp only [Ends, hl, Option.some.injEq, exists_eq_left']

lemma starts_iff (hl : lines[i]? = some line) :
    Starts lines i d ↔ Directive.read (i + 1) line = .ok (some d) := by
  simp only [Starts, hl, Option.some.injEq, exists_eq_left']

def blockBefore (lines : List Text) (i : Nat) : Option Block := lastBlock none ((roles 1 none lines).take i)

lemma getElem?_roles (n : Nat) (block : Option Block) (lines : List Text) (i : Nat) :
    (roles n block lines)[i]? =
      lines[i]?.map fun line => (line, role (n + i) (lastBlock block ((roles n block lines).take i)) line) := by
  induction lines generalizing n block i with
  | nil => rfl
  | cons line lines ih =>
    cases i with
    | zero => rfl
    | succ i =>
      rw [roles, List.getElem?_cons_succ, List.getElem?_cons_succ, List.take_succ_cons, lastBlock, ih]
      simp only [Nat.add_right_comm n 1 i, Nat.add_assoc]

lemma lastBlock_concat (block : Option Block) (xs : List (Text × Role)) (x : Text × Role) :
    lastBlock block (xs ++ [x]) = x.2.leaves := by
  induction xs generalizing block with
  | nil => rfl
  | cons y xs ih => exact ih y.2.leaves

lemma getElem?_lineRoles (content : Text) (i : Nat) :
    (lineRoles content)[i]? = (Lines.split content)[i]?.map fun line =>
      (line, role (i + 1) (blockBefore (Lines.split content) i) line) := by
  rw [lineRoles, getElem?_roles, Nat.add_comm 1 i, blockBefore]

lemma blockBefore_succ (hl : lines[i]? = some line) :
    blockBefore lines (i + 1) = (role (i + 1) (blockBefore lines i) line).leaves := by
  have hr := getElem?_roles 1 none lines i
  rw [hl, Option.map_some] at hr
  rw [blockBefore, List.take_add_one, hr, Option.toList_some, lastBlock_concat, Nat.add_comm 1 i, blockBefore]

def Tracks (lines : List Text) (i : Nat) : Option Block → Prop
  | none => ¬ OpenBefore lines i
  | some b => ∃ j d, j < i ∧ Opens lines j d ∧ Unbroken lines j i ∧ b = Block.ofDirective (j + 1) d

lemma Tracks.openBefore (h : Tracks lines i (some b)) : OpenBefore lines i := by
  obtain ⟨j, d, hj, ho, hu, _⟩ := h
  exact openBefore_iff.mpr ⟨j, d, hj, ho, hu⟩

lemma tracks_succ_of_opens (h : Opens lines i d) : Tracks lines (i + 1) (some (Block.ofDirective (i + 1) d)) :=
  ⟨i, d, Nat.lt_succ_self i, h, fun _ hk hki => absurd hk (Nat.not_lt.mpr (Nat.lt_succ_iff.mp hki)), rfl⟩

lemma not_openBefore_succ (h : ¬ OpenBefore lines i) (hs : ∀ d, ¬ Starts lines i d) :
    ¬ OpenBefore lines (i + 1) := by
  intro ho
  obtain ⟨j, d, hj, hd, hu⟩ := openBefore_iff.mp ho
  rcases Nat.lt_succ_iff_lt_or_eq.mp hj with hlt | rfl
  · exact h (openBefore_iff.mpr ⟨j, d, hlt, hd, hu.below (Nat.le_succ i)⟩)
  · exact hs d hd.2

lemma not_openBefore_succ_of_ends (h : OpenBefore lines i) (he : Ends lines i) : ¬ OpenBefore lines (i + 1) := by
  intro ho
  obtain ⟨j, d, hj, hd, hu⟩ := openBefore_iff.mp ho
  rcases Nat.lt_succ_iff_lt_or_eq.mp hj with hlt | rfl
  · exact ((unbroken_succ_iff hlt).mp hu).2 he
  · exact hd.1 h

lemma tracks_step (h : Tracks lines i block) (hl : lines[i]? = some line) :
    Tracks lines (i + 1) (role (i + 1) block line).leaves := by
  cases block with
  | none =>
    rw [role]
    cases hd : Directive.read (i + 1) line with
    | error e => exact not_openBefore_succ h fun d => by simp [starts_iff hl, hd]
    | ok x =>
      cases x with
      | none => exact not_openBefore_succ h fun d => by simp [starts_iff hl, hd]
      | some d => exact tracks_succ_of_opens ⟨h, (starts_iff hl).mpr hd⟩
  | some b =>
    rw [role]
    split
    · next he => exact not_openBefore_succ_of_ends h.openBefore ((ends_iff hl).mpr he)
    · next he =>
      obtain ⟨j, d, hj, ho, hu, hb⟩ := h
      have hne : ¬ Ends lines i := fun hi => he ((ends_iff hl).mp hi)
      exact ⟨j, d, hj.trans (Nat.lt_succ_self i), ho, (unbroken_succ_iff hj).mpr ⟨hu, hne⟩, hb⟩

lemma tracks_blockBefore (hi : i ≤ lines.length) : Tracks lines i (blockBefore lines i) := by
  induction i with
  | zero =>
    intro ho
    obtain ⟨j, d, hj, _⟩ := openBefore_iff.mp ho
    exact Nat.not_lt_zero j hj
  | succ i ih =>
    have hl : lines[i]? = some lines[i] := List.getElem?_eq_getElem hi
    rw [blockBefore_succ hl]
    exact tracks_step (ih (Nat.le_of_succ_le hi)) hl

def LastOpener (lines : List Text) (i j : Nat) (d : Directive) : Prop :=
  j < i ∧ Opens lines j d ∧ ∀ k d', k < i → Opens lines k d' → k ≤ j

lemma lastOpener_of_unbroken (hj : j < i) (ho : Opens lines j d) (hu : Unbroken lines j i) :
    LastOpener lines i j d := by
  refine ⟨hj, ho, fun k d' hk hd' => ?_⟩
  -- a later opener would have found the block of line `j` still open
  by_contra hlt
  exact hd'.1 (openBefore_iff.mpr ⟨j, d, Nat.lt_of_not_le hlt, ho, hu.below hk.le⟩)

lemma LastOpener.unique (h : LastOpener lines i j d) (h' : LastOpener lines i k d') : j = k ∧ d = d' := by
  obtain ⟨hj, ho, hlast⟩ := h
  obtain ⟨hk, ho', hlast'⟩ := h'
  obtain rfl := Nat.le_antisymm (hlast' j d hj ho) (hlast k d' hk ho')
  obtain ⟨line, hl, hd⟩ := ho.2
  have hd' := (starts_iff hl).mp ho'.2
  rw [hd] at hd'
  exact ⟨rfl, Option.some.inj (Except.ok.inj hd')⟩

structure Rendered (o : Options) (lines : List Text) (i : Nat) (line line' : Text) : Prop where
  outside : ¬ OpenBefore lines i → (∀ d, ¬ Opens lines i d) → line' = line
  opener : ∀ d, Opens lines i d → line' = if o.removeDirectiveLines then [] else line
  closer : OpenBefore lines i → Directive.isEnd line = true →
    line' = if o.removeDirectiveLines then [] else line
  inside : OpenBefore lines i → Directive.isEnd line = false →
    ∃ j d, LastOpener lines i j d ∧ line' = d.action.apply d.delimiters o.padding line

lemma rendered_of_tracks (h : Tracks lines i block) (hl : lines[i]? = some line) :
    Rendered o lines i line ((role (i + 1) block line).rewrite o line) := by
  cases block with
  | none =>
    have hopen : ∀ d, Opens lines i d ↔ Directive.read (i + 1) line = .ok (some d) := fun d =>
      (and_iff_right h).trans (starts_iff hl)
    refine ⟨fun _ hn => ?_, fun d hd => ?_, fun ho => absurd ho h, fun ho => absurd ho h⟩
    · rw [role]
      cases hd : Directive.read (i + 1) line with
      | error e => rfl
      | ok x =>
        cases x with
        | none => rfl
        | some d => exact absurd ((hopen d).mpr hd) (hn d)
    · rw [role, (hopen d).mp hd]
      rfl
  | some b =>
    have ho := h.openBefore
    refine ⟨fun hn => absurd ho hn, fun d hd => absurd ho hd.1, fun _ he => ?_, fun _ he => ?_⟩
    · rw [role, if_pos he]
      rfl
    · obtain ⟨j, d, hj, hd, hu, rfl⟩ := h
      refine ⟨j, d, lastOpener_of_unbroken hj hd hu, ?_⟩
      rw [role, if_neg (by simp [he])]
      rfl

/-- The result has the line breaks of the content, and each of its lines is what the block semantics says. -/
theorem transform_rendered {out : Outcome} (h : transform o content = .ok out) :
    out.content.count '\n' = content.count '\n' ∧
      ∃ lines, out.content = Lines.join (LineEnding.detect content) lines ∧
        lines.length = (Lines.split content).length ∧ (∀ line ∈ lines, '\n' ∉ line) ∧
        ∀ (i : Nat) (line line' : Text), (Lines.split content)[i]? = some line → lines[i]? = some line' →
          Rendered o (Lines.split content) i line line' := by
  obtain ⟨_, rfl⟩ := transform_eq_ok_iff.mp h
  have hfree := newline_not_mem_rewrite o content
  have hlen : ((lineRoles content).map fun x => x.2.rewrite o x.1).length = (Lines.split content).length := by
    rw [List.length_map, lineRoles, length_roles]
  refine ⟨?_, _, rfl, hlen, hfree, ?_⟩
  · have hc := Lines.count_join (LineEnding.detect content) (map_lineRoles_ne_nil _ content) hfree
    rw [hlen, ← Lines.count_newline] at hc
    exact Nat.succ.inj hc
  · intro i line line' hl hl'
    obtain ⟨hi, _⟩ := List.getElem?_eq_some_iff.mp hl
    rw [List.getElem?_map, getElem?_lineRoles, hl] at hl'
    obtain rfl := Option.some.inj hl'
    exact rendered_of_tracks (tracks_blockBefore hi.le) hl

theorem transform_rendered_nested :
    transform {} "<!--endcomments-->\n<!--comments:comment #-->\n<!--comments:x //-->\n<!--endcomments-->".toList =
        .ok ⟨"<!--endcomments-->\n<!--comments:comment #-->\n# <!--comments:x //-->\n<!--endcomments-->".toList,
          []⟩ ∧
      ∃ lines, Lines.join .lf lines =
          "<!--endcomments-->\n<!--comments:comment #-->\n# <!--comments:x //-->\n<!--endcomments-->".toList ∧
        lines.length = 4 ∧ (∀ line ∈ lines, '\n' ∉ line) ∧
        ∀ (i : Nat) (line line' : Text),
          ["<!--endcomments-->".toList, "<!--comments:comment #-->".toList, "<!--comments:x //-->".toList,
            "<!--endcomments-->".toList][i]? = some line → lines[i]? = some line' →
          Rendered {} ["<!--endcomments-->".toList, "<!--comments:comment #-->".toList,
            "<!--comments:x //-->".toList, "<!--endcomments-->".toList] i line line' := by
  have hscan : scan {} 1 none ["<!--endcomments-->".toList, "<!--comments:comment #-->".toList,
        "<!--comments:x //-->".toList, "<!--endcomments-->".toList] =
      .ok (["<!--endcomments-->".toList, "<!--comments:comment #-->".toList, "# <!--comments:x //-->".toList,
        "<!--endcomments-->".toList], none) := rfl
  have h : transform {}
        "<!--endcomments-->\n<!--comments:comment #-->\n<!--comments:x //-->\n<!--endcomments-->".toList =
      .ok ⟨"<!--endcomments-->\n<!--comments:comment #-->\n# <!--comments:x //-->\n<!--endcomments-->".toList,
        []⟩ := transform_eq_ok_iff_scan.mpr ⟨_, _, hscan, rfl⟩
  obtain ⟨_, lines, hj, hl, hn, hr⟩ := transform_rendered h
  exact ⟨h, lines, hj.symm, hl, hn, hr⟩

end CommentBlocks.Document
