import CommentBlocks.Proofs.Openers
import CommentBlocks.Proofs.Starts

namespace CommentBlocks

open Text

lemma Action.isWord_of_mem_name (a : Action) : ∀ c ∈ a.name, isWord c = true := by
  have h : a.name.all isWord = true := by cases a <;> decide
  exact List.all_eq_true.mp h

lemma Action.name_ne_nil (a : Action) : a.name ≠ [] := by
  cases a <;> exact List.cons_ne_nil _ _

lemma Action.ofKeyword?_name (a : Action) : ofKeyword? a.name = some a := by
  cases a <;> decide

lemma Delimiters.not_mem_opening_ofSpec {c : Char} {spec : Text} (h : c ∉ spec) (hc : c ∉ css.opening)
    (hh : spec.map Char.toLower ≠ ['h', 't', 'm', 'l']) : c ∉ (ofSpec spec).opening := by
  simp only [ofSpec]
  split_ifs
  · contradiction
  · exact hc
  · exact h

namespace Directive

variable {spec : Text} {c : Char}

/-- The start directive `<!-- comments:ACTION DELIMITER -->`. -/
def written (x : Directive) : Text :=
  markOpening ++ (' ' :: (startWord ++ (x.action.name ++ (' ' :: (x.delimiter ++ (' ' :: markClosing))))))

def writtenEnd : Text := markOpening ++ (' ' :: (endWord ++ (' ' :: markClosing)))

lemma isEnd_writtenEnd : isEnd writtenEnd = true := by decide

lemma read_written {x : Directive} (hx : x.delimiter ≠ [] ∧ Solid x.delimiter) (n : Nat) :
    read n x.written = .ok (some x) := by
  have hstart : StartMark (markOpening ++ ([' '] ++ (startWord ++ []))) :=
    ⟨[' '], startWord, [], rfl, by decide, spells_of_map_toLower (by decide), by decide⟩
  have hnil : ¬ markOpening <:+: [] := by decide
  have hmark := mark?_append hnil hstart x.action.isWord_of_mem_name x.action.name_ne_nil (w := [' ']) (by decide)
    (by decide) hx (v := [' ']) (r := []) (by decide) (by decide)
  have hw : x.written = [] ++ (markOpening ++ ([' '] ++ (startWord ++ [])) ++
      (x.action.name ++ ([' '] ++ (x.delimiter ++ ([' '] ++ (markClosing ++ [])))))) := by
    simp only [written, List.append_assoc, List.append_nil, List.cons_append, List.nil_append]
  rw [read, hw, hmark]
  simp only [Action.ofKeyword?_name]

lemma not_mem_written {x : Directive} (hb : isBlank c = true) (hs : c ≠ ' ') (hx : Solid x.delimiter) :
    c ∉ x.written := by
  have hsolid : ∀ t, Solid t → c ∉ t := fun t => not_mem_of_solid hb
  have hname : Solid x.action.name := by cases x.action <;> decide
  simp only [written, List.mem_append, List.mem_cons, not_or]
  exact ⟨hsolid _ (by decide), hs, hsolid _ (by decide), hsolid _ hname, hs, hsolid _ hx, hs, hsolid _ (by decide)⟩

end Directive

namespace Document

open Lines Directive

variable {o : Options} {n p q : Nat} {b : Block} {e : LineEnding} {spec opener closer : Text} {lines : List Text}
  {x : Directive}

lemma roles_inside (h : ∀ l ∈ lines, isEnd l = false) (hc : isEnd closer = true) :
    roles n (some b) (lines ++ [closer]) = lines.map (fun l => (l, .inside b)) ++ [(closer, .closer b)] := by
  induction lines generalizing n with
  | nil =>
    rw [List.nil_append, roles, role, if_pos hc]
    rfl
  | cons line lines ih =>
    obtain ⟨hl, hls⟩ := List.forall_mem_cons.mp h
    have hr : role n (some b) line = .inside b := role_eq_inside_iff.mpr ⟨rfl, hl⟩
    have hb : (Role.inside b).leaves = some b := rfl
    rw [List.cons_append, roles, hr, hb, ih hls, List.map_cons, List.cons_append]

def ofBlock (e : LineEnding) (opener : Text) (lines : List Text) (closer : Text) : Text :=
  join e (opener :: (lines ++ [closer]))

lemma lineRoles_ofBlock (ho : read 1 opener = .ok (some x)) (hl : ∀ l ∈ lines, isEnd l = false)
    (hc : isEnd closer = true) (hs : Separable e (opener :: (lines ++ [closer]))) :
    lineRoles (ofBlock e opener lines closer) =
      ((opener, .opener (Block.ofDirective 1 x)) :: lines.map fun l => (l, .inside (Block.ofDirective 1 x))) ++
        [(closer, .closer (Block.ofDirective 1 x))] := by
  have hr : role 1 none opener = .opener (Block.ofDirective 1 x) := role_eq_opener_iff.mpr ⟨rfl, x, ho, rfl⟩
  have hb : (Role.opener (Block.ofDirective 1 x)).leaves = some (Block.ofDirective 1 x) := rfl
  rw [lineRoles, ofBlock, split_join (List.cons_ne_nil _ _) hs, roles, hr, hb, roles_inside hl hc,
    List.cons_append]

lemma transform_ofBlock (ho : read 1 opener = .ok (some x)) (hl : ∀ l ∈ lines, isEnd l = false)
    (hc : isEnd closer = true) (hs : Separable e (opener :: (lines ++ [closer]))) :
    transform o (ofBlock e opener lines closer) =
      .ok ⟨ofBlock e (directiveLine o opener) (lines.map ((Block.ofDirective 1 x).apply o))
          (directiveLine o closer),
        []⟩ := by
  have hrs := lineRoles_ofBlock ho hl hc hs
  have hj : ∀ ls : List Text, ls.length = (opener :: (lines ++ [closer])).length →
      join (LineEnding.detect (ofBlock e opener lines closer)) ls = join e ls := by
    intro ls hlen
    refine join_detect (detect_join hs) ?_
    rw [ofBlock, split_join (List.cons_ne_nil _ _) hs, hlen]
  refine transform_eq_ok_iff.mpr ⟨?_, ?_⟩
  · rw [hrs]
    simp only [List.mem_append, List.mem_cons, List.mem_map, List.not_mem_nil, or_false]
    rintro _ ((rfl | ⟨l, _, rfl⟩) | rfl) e <;> exact Role.noConfusion
  · rw [unclosed, hrs, lastBlock_concat, hj _ (by simp)]
    simp only [List.map_append, List.map_cons, List.map_map, List.map_nil, Function.comp_def, Role.rewrite,
      Role.leaves, Option.map_none, Option.toList_none, List.cons_append, ofBlock]

def written (e : LineEnding) (a : Action) (spec : Text) (lines : List Text) : Text :=
  ofBlock e (Directive.written ⟨a, spec⟩) lines writtenEnd

lemma separable_written {a : Action} (hs : Text.Solid spec) (h : ∀ l ∈ lines, '\n' ∉ l ∧ '\r' ∉ l) :
    Separable e (Directive.written ⟨a, spec⟩ :: (lines ++ [writtenEnd])) := by
  refine separable_of_not_mem (List.forall_mem_cons.mpr ⟨?_, List.forall_mem_append.mpr ⟨h, by decide⟩⟩)
  exact ⟨not_mem_written (by decide) (by decide) hs, not_mem_written (by decide) (by decide) hs⟩

lemma transform_written {a : Action} (hne : spec ≠ []) (hs : Text.Solid spec)
    (h : ∀ l ∈ lines, ('\n' ∉ l ∧ '\r' ∉ l) ∧ isEnd l = false) :
    transform ⟨false, p⟩ (written e a spec lines) =
      .ok ⟨written e a spec (lines.map (a.apply (Delimiters.ofSpec spec) p)), []⟩ :=
  transform_ofBlock (read_written ⟨hne, hs⟩ 1) (fun l hl => (h l hl).2) isEnd_writtenEnd
    (separable_written hs fun l hl => (h l hl).1)

/-- Uncommenting a commented block restores its lines, each without the blanks at its end. -/
theorem transform_comment_uncomment (hne : spec ≠ []) (hs : Text.Solid spec) (ho : '<' ∉ spec)
    (hh : spec.map Char.toLower ≠ ['h', 't', 'm', 'l'])
    (hl : ∀ l ∈ lines, ('\n' ∉ l ∧ '\r' ∉ l) ∧ isEnd l = false ∧ (Delimiters.ofSpec spec).isCommented l = false)
    (e : LineEnding) (p q : Nat) :
    transform ⟨false, p⟩ (written e .comment spec lines) =
        .ok ⟨written e .comment spec (lines.map ((Delimiters.ofSpec spec).comment p)), []⟩ ∧
      transform ⟨false, q⟩ (written e .uncomment spec (lines.map ((Delimiters.ofSpec spec).comment p))) =
        .ok ⟨written e .uncomment spec (lines.map fun l => indent l ++ trim (trimStart l)), []⟩ := by
  have hd := Delimiters.solid_ofSpec hne hs
  have hopen := Delimiters.not_mem_opening_ofSpec ho (by decide) hh
  have hcommented : ∀ l ∈ lines.map ((Delimiters.ofSpec spec).comment p),
      ('\n' ∉ l ∧ '\r' ∉ l) ∧ isEnd l = false := by
    intro l hm
    obtain ⟨u, hu, rfl⟩ := List.mem_map.mp hm
    obtain ⟨⟨hn, hr⟩, he, _⟩ := hl u hu
    refine ⟨⟨Action.not_mem_apply (a := .comment) hd (by decide) (by decide) hn,
      Action.not_mem_apply (a := .comment) hd (by decide) (by decide) hr⟩, ?_⟩
    rw [Bool.eq_false_iff] at he ⊢
    exact fun hc => he (isEnd_of_isEnd_apply (a := .comment) hopen (not_mem_closing_of_not_mem_opening hopen) hc)
  have hback : ∀ l ∈ lines, (Delimiters.ofSpec spec).uncomment ((Delimiters.ofSpec spec).comment p l) =
      indent l ++ trim (trimStart l) := by
    intro l hm
    obtain ⟨⟨hn, _⟩, _, hc⟩ := hl l hm
    rw [Delimiters.uncomment_of_comment hd.visible hc hn, trim, trim, trimStart_trimStart]
  refine ⟨transform_written hne hs fun l hm => ⟨(hl l hm).1, (hl l hm).2.1⟩, ?_⟩
  rw [transform_written hne hs hcommented, List.map_map]
  congr 3
  exact List.map_congr_left hback

theorem transform_comment_uncomment_closing :
    transform ⟨false, 2⟩ (written .crlf .comment "-->".toList [" a-->b ".toList, []]) =
        .ok ⟨"<!-- comments:comment --> -->\r\n -->  a-->b\r\n-->  \r\n<!-- endcomments -->".toList, []⟩ ∧
      transform ⟨false, 0⟩
          "<!-- comments:uncomment --> -->\r\n -->  a-->b\r\n-->  \r\n<!-- endcomments -->".toList =
        .ok ⟨"<!-- comments:uncomment --> -->\r\n a-->b\r\n\r\n<!-- endcomments -->".toList, []⟩ := by
  exact transform_comment_uncomment (by decide) (by decide) (by decide) (by decide) (by decide) .crlf 2 0

end Document
end CommentBlocks
