import CommentBlocks.Delimiters
import CommentBlocks.Proofs.Text.Search
import CommentBlocks.Proofs.Text.Trimming

namespace CommentBlocks.Delimiters

open Text

variable {d : Delimiters} {line w m r : Text} {x : Detection}

/-- The opening delimiter can be told from the indentation. -/
def OpensVisibly (d : Delimiters) : Prop := ∃ c r, d.opening = c :: r ∧ isBlank c = false

lemma OpensVisibly.ne_nil (hd : d.OpensVisibly) : d.opening ≠ [] ∨ d.closing ≠ [] := by
  obtain ⟨c, o, ho, -⟩ := hd
  rw [ho]
  exact Or.inl (List.cons_ne_nil c o)

structure Solid (d : Delimiters) : Prop where
  visible : d.OpensVisibly
  opening : Text.Solid d.opening
  closing : Text.Solid d.closing

lemma solid_html : html.Solid := ⟨⟨'<', ['!', '-', '-'], rfl, by decide⟩, by decide, by decide⟩

lemma solid_css : css.Solid := ⟨⟨'/', ['*'], rfl, by decide⟩, by decide, by decide⟩

lemma solid_ofSpec {spec : Text} (hne : spec ≠ []) (hs : Text.Solid spec) : (ofSpec spec).Solid := by
  simp only [ofSpec]
  split_ifs
  · exact solid_html
  · exact solid_css
  · obtain ⟨c, r, rfl⟩ := List.exists_cons_of_ne_nil hne
    exact ⟨⟨c, r, rfl, hs c List.mem_cons_self⟩, hs, solid_nil⟩

def wrapped? (d : Delimiters) (s : Text) : Option (Text × Text) :=
  (after? d.opening s).bind (longestRun? (· ≠ '\n') (after? d.closing))

lemma detect?_eq (d : Delimiters) (line : Text) :
    d.detect? line = (longestRun? isBlank d.wrapped? line).map fun (w, m, r) => ⟨w, m, r⟩ := rfl

lemma isSome_after?_iff {t s : Text} : (after? t s).isSome = true ↔ ∃ r, s = t ++ r := by
  simp only [Option.isSome_iff_exists, after?_eq_some_iff]

lemma wrapped?_eq_some_iff {s : Text} :
    d.wrapped? s = some (m, r) ↔
      ∃ t, s = d.opening ++ t ∧ LongestRun (· ≠ '\n') (after? d.closing) t m (d.closing ++ r) := by
  simp only [wrapped?, Option.bind_eq_some_iff, after?_eq_some_iff, longestRun?_eq_some_iff]
  constructor
  · rintro ⟨t, rfl, rest, hl, rfl⟩
    exact ⟨t, rfl, hl⟩
  · rintro ⟨t, rfl, hl⟩
    exact ⟨t, rfl, _, hl, rfl⟩

lemma wrapped?_isSome_iff {s : Text} :
    (d.wrapped? s).isSome = true ↔ ∃ m r, s = d.opening ++ (m ++ (d.closing ++ r)) ∧ '\n' ∉ m := by
  rw [wrapped?, Option.isSome_bind, Option.any_eq_true]
  simp only [after?_eq_some_iff, longestRun?_isSome_iff, isSome_after?_iff]
  constructor
  · rintro ⟨t, rfl, m, _, rfl, hm, r, rfl⟩
    exact ⟨m, r, rfl, fun h => by simpa using hm _ h⟩
  · rintro ⟨m, r, rfl, hm⟩
    refine ⟨_, rfl, m, _, rfl, ?_, r, rfl⟩
    intro c hc
    simpa using fun he : c = '\n' => hm (he ▸ hc)

lemma isCommented_iff :
    d.isCommented line = true ↔
      ∃ w m r, line = w ++ (d.opening ++ (m ++ (d.closing ++ r))) ∧ Blank w ∧ '\n' ∉ m := by
  rw [isCommented, detect?_eq, Option.isSome_map, longestRun?_isSome_iff]
  simp only [wrapped?_isSome_iff]
  constructor
  · rintro ⟨w, _, rfl, hw, m, r, rfl, hm⟩
    exact ⟨w, m, r, rfl, hw, hm⟩
  · rintro ⟨w, m, r, rfl, hw, hm⟩
    exact ⟨w, _, rfl, hw, m, r, rfl, hm⟩

lemma detect?_isNone_of_not_commented (h : d.isCommented line = false) : d.detect? line = none := by
  rwa [isCommented, Option.isSome_eq_false_iff, Option.isNone_iff_eq_none] at h

lemma exists_detect?_of_commented (h : d.isCommented line = true) : ∃ x, d.detect? line = some x := by
  rwa [isCommented, Option.isSome_iff_exists] at h

lemma detect?_eq_some_iff :
    d.detect? line = some x ↔
      ∃ t, LongestRun isBlank d.wrapped? line x.indent (d.opening ++ t) ∧
        LongestRun (· ≠ '\n') (after? d.closing) t x.body (d.closing ++ x.rest) := by
  rw [detect?_eq, Option.map_eq_some_iff]
  constructor
  · rintro ⟨⟨w, m, r⟩, h, rfl⟩
    obtain ⟨_, hw, hx⟩ := longestRun?_eq_some_iff.mp h
    obtain ⟨t, rfl, hm⟩ := wrapped?_eq_some_iff.mp hx
    exact ⟨t, hw, hm⟩
  · rintro ⟨t, hw, hm⟩
    have hx : d.wrapped? (d.opening ++ t) = some (x.body, x.rest) := wrapped?_eq_some_iff.mpr ⟨t, rfl, hm⟩
    exact ⟨(x.indent, x.body, x.rest), longestRun?_eq_some_iff.mpr ⟨_, hw, hx⟩, rfl⟩

lemma eq_of_detect? (h : d.detect? line = some x) :
    line = x.indent ++ (d.opening ++ (x.body ++ (d.closing ++ x.rest))) := by
  obtain ⟨t, hw, hm⟩ := detect?_eq_some_iff.mp h
  rw [← hm.split]
  exact hw.split

lemma blank_indent_of_detect? (h : d.detect? line = some x) : Blank x.indent := by
  obtain ⟨t, hw, _⟩ := detect?_eq_some_iff.mp h
  exact hw.holds

lemma newline_not_mem_body (h : d.detect? line = some x) : '\n' ∉ x.body := by
  obtain ⟨t, -, hm⟩ := detect?_eq_some_iff.mp h
  exact fun hn => of_decide_eq_true (hm.holds _ hn) rfl

lemma indent_append_opening (hd : d.OpensVisibly) (hw : Blank w) (s : Text) :
    Text.indent (w ++ (d.opening ++ s)) = w := by
  obtain ⟨c, o, ho, hc⟩ := hd
  rw [ho, List.cons_append, indent_append_cons hw hc]

lemma indent_of_detect? (hd : d.OpensVisibly) (h : d.detect? line = some x) : x.indent = Text.indent line := by
  have hl := eq_of_detect? h
  have hw := blank_indent_of_detect? h
  rw [hl, indent_append_opening hd hw]

lemma indent_longest (h : d.detect? line = some x) (hl : line = w ++ (d.opening ++ (m ++ (d.closing ++ r))))
    (hw : Blank w) (hn : '\n' ∉ m) : w.length ≤ x.indent.length := by
  obtain ⟨t, hx, -⟩ := detect?_eq_some_iff.mp h
  exact hx.longest w _ hl hw (wrapped?_isSome_iff.mpr ⟨m, r, rfl, hn⟩)

lemma body_longest_of_indent (h : d.detect? line = some x)
    (hl : line = x.indent ++ (d.opening ++ (m ++ (d.closing ++ r)))) (hn : '\n' ∉ m) :
    m.length ≤ x.body.length := by
  obtain ⟨t, hx, hm⟩ := detect?_eq_some_iff.mp h
  have ht : t = m ++ (d.closing ++ r) :=
    (List.append_cancel_left (List.append_cancel_left (hl.symm.trans hx.split))).symm
  refine hm.longest m _ ht ?_ (isSome_after?_iff.mpr ⟨r, rfl⟩)
  intro c hc
  simpa using fun he : c = '\n' => hn (he ▸ hc)

lemma body_longest (hd : d.OpensVisibly) (h : d.detect? line = some x)
    (hl : line = w ++ (d.opening ++ (m ++ (d.closing ++ r)))) (hw : Blank w) (hn : '\n' ∉ m) :
    m.length ≤ x.body.length := by
  have hi : x.indent = w := by rw [indent_of_detect? hd h, hl, indent_append_opening hd hw]
  exact body_longest_of_indent h (hi.symm ▸ hl) hn

lemma detect?_of_closed (hd : d.OpensVisibly) (hw : Blank w) (hn : '\n' ∉ m) :
    d.detect? (w ++ (d.opening ++ (m ++ d.closing))) = some ⟨w, m, []⟩ := by
  have hc : d.isCommented (w ++ (d.opening ++ (m ++ d.closing))) = true :=
    isCommented_iff.mpr ⟨w, m, [], by rw [List.append_nil], hw, hn⟩
  obtain ⟨x, hx⟩ := exists_detect?_of_commented hc
  have hi : x.indent = w := by rw [indent_of_detect? hd hx, indent_append_opening hd hw]
  have hm := body_longest (r := []) hd hx (by rw [List.append_nil]) hw hn
  have he := eq_of_detect? hx
  rw [hi] at he
  have hb : m ++ d.closing = x.body ++ (d.closing ++ x.rest) :=
    List.append_cancel_left (List.append_cancel_left he)
  have hlen := congrArg List.length hb
  simp only [List.length_append] at hlen
  obtain ⟨hbody, hrest⟩ := List.append_inj hb (by omega)
  have hr : x.rest = [] := List.eq_nil_of_length_eq_zero (by omega)
  rw [hx, hbody, ← hi, ← hr]

end CommentBlocks.Delimiters
