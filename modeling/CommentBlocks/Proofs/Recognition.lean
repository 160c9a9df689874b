import CommentBlocks.Proofs.Refusals
import CommentBlocks.Proofs.RoundTrip

namespace CommentBlocks.Directive

open Text

variable {s line word e f a k w d v r before after : Text} {m : Mark} {x : Directive} {n : Nat}

/-- `word` in any casing. Its last letter may be a long s. -/
def Cased (word e : Text) : Prop :=
  e.map Char.toLower = word ∨ ∃ i, e = i ++ [longS] ∧ i.map Char.toLower = word.dropLast

def commentsWord : Text := ['c', 'o', 'm', 'm', 'e', 'n', 't', 's']

def StartFactor (k d f : Text) : Prop :=
  ∃ w₀ c w₁ w₂ w₃, f = markOpening ++ (w₀ ++ (c ++ (':' :: (w₁ ++ (k ++ (w₂ ++ (d ++ (w₃ ++ markClosing)))))))) ∧
    Blank w₀ ∧ Cased commentsWord c ∧ Blank w₁ ∧ (∀ x ∈ k, isWord x = true) ∧ Blank w₂ ∧
      (d ≠ [] ∧ Solid d) ∧ Blank w₃

def EndFactor (f : Text) : Prop :=
  ∃ w e v, f = markOpening ++ (w ++ (e ++ (v ++ markClosing))) ∧ Blank w ∧ Cased endWord e ∧ Blank v

lemma spells_append_iff {u : Text} : Spells (word ++ u) e ↔ ∃ x y, e = x ++ y ∧ Spells word x ∧ Spells u y := by
  induction word generalizing e with
  | nil =>
    constructor
    · intro h
      exact ⟨[], e, rfl, .nil, h⟩
    · rintro ⟨x, y, rfl, hx, hy⟩
      cases hx
      exact hy
  | cons b word ih =>
    constructor
    · intro h
      cases h with
      | cons hb h =>
        obtain ⟨x, y, rfl, hx, hy⟩ := ih.mp h
        exact ⟨_ :: x, y, rfl, .cons hb hx, hy⟩
    · rintro ⟨x, y, rfl, hx, hy⟩
      cases hx with
      | cons hb hx => exact .cons hb (ih.mpr ⟨_, y, rfl, hx, hy⟩)

lemma spells_iff_of_not_mem (h : 's' ∉ word) : Spells word e ↔ e.map Char.toLower = word := by
  refine ⟨fun he => ?_, spells_of_map_toLower⟩
  induction he with
  | nil => rfl
  | cons hc _ ih =>
    obtain ⟨hs, hw⟩ := not_or.mp (List.mem_cons.not.mp h)
    simp only [isLetter, Ne.symm hs, decide_false, Bool.false_and, Bool.or_false, decide_eq_true_eq] at hc
    rw [List.map_cons, hc, ih hw]

lemma spells_s_iff : Spells ['s'] e ↔ e.map Char.toLower = ['s'] ∨ e = [longS] := by
  rw [Spells, List.forall₂_cons_left_iff]
  simp only [List.forall₂_nil_left_iff, isLetter, decide_true, Bool.true_and, Bool.or_eq_true, decide_eq_true_eq,
    List.map_eq_singleton_iff]
  constructor
  · rintro ⟨c, _, hc | rfl, rfl, rfl⟩
    · exact Or.inl ⟨c, rfl, hc⟩
    · exact Or.inr rfl
  · rintro (⟨c, rfl, hc⟩ | rfl)
    · exact ⟨c, [], Or.inl hc, rfl, rfl⟩
    · exact ⟨longS, [], Or.inr rfl, rfl, rfl⟩

lemma spells_concat_iff (h : 's' ∉ word) : Spells (word ++ ['s']) e ↔ Cased (word ++ ['s']) e := by
  simp only [spells_append_iff, spells_iff_of_not_mem h, spells_s_iff, Cased, List.dropLast_concat]
  constructor
  · rintro ⟨x, y, rfl, hx, hy | rfl⟩
    · exact Or.inl (by rw [List.map_append, hx, hy])
    · exact Or.inr ⟨x, rfl, hx⟩
  · rintro (he | ⟨x, rfl, hx⟩)
    · obtain ⟨x, y, rfl, hx, hy⟩ := List.map_eq_append_iff.mp he
      exact ⟨x, y, rfl, hx, Or.inl hy⟩
    · exact ⟨x, [longS], rfl, hx, Or.inr rfl⟩

lemma spells_startWord_iff : Spells startWord e ↔ ∃ c, e = c ++ [':'] ∧ Cased commentsWord c := by
  have hword : startWord = ['c', 'o', 'm', 'm', 'e', 'n', 't'] ++ ['s'] ++ [':'] := rfl
  have hcased : ∀ c, Spells (['c', 'o', 'm', 'm', 'e', 'n', 't'] ++ ['s']) c ↔ Cased commentsWord c :=
    fun c => spells_concat_iff (by decide)
  have hcolon : ∀ y, Spells [':'] y ↔ y = [':'] := by
    intro y
    simp only [spells_iff_of_not_mem (by decide : 's' ∉ [':']), List.map_eq_singleton_iff, toLower_eq_colon_iff,
      exists_eq_right]
  simp only [hword, spells_append_iff, hcased, hcolon]
  constructor
  · rintro ⟨c, y, rfl, hc, rfl⟩
    exact ⟨c, rfl, hc⟩
  · rintro ⟨c, rfl, hc⟩
    exact ⟨c, _, rfl, hc, rfl⟩

lemma spells_endWord_iff : Spells endWord e ↔ Cased endWord e := by
  have hword : endWord = ['e', 'n', 'd', 'c', 'o', 'm', 'm', 'e', 'n', 't'] ++ ['s'] := rfl
  rw [hword, spells_concat_iff (by decide)]

lemma endMark_iff : EndMark f ↔ EndFactor f := by
  simp only [EndMark, EndFactor, spells_endWord_iff]

lemma startFactor_of_startMark (ha : StartMark a) (hk : ∀ c ∈ k, isWord c = true) (hw : Blank w)
    (hd : d ≠ [] ∧ Solid d) (hv : Blank v) : StartFactor k d (a ++ (k ++ (w ++ (d ++ (v ++ markClosing))))) := by
  obtain ⟨w₀, e, w₁, rfl, hw₀, he, hw₁⟩ := ha
  obtain ⟨c, rfl, hc⟩ := spells_startWord_iff.mp he
  refine ⟨w₀, c, w₁, w, v, ?_, hw₀, hc, hw₁, hk, hw, hd, hv⟩
  simp only [List.append_assoc, List.cons_append, List.nil_append]

lemma startForm_iff : StartForm f ↔ ∃ k d, StartFactor k d f := by
  constructor
  · rintro ⟨a, k, w, d, v, rfl, ha, hk, hw, hd, hv⟩
    exact ⟨k, d, startFactor_of_startMark ha hk hw hd hv⟩
  · rintro ⟨k, d, w₀, c, w₁, w₂, w₃, rfl, hw₀, hc, hw₁, hk, hw₂, hd, hw₃⟩
    refine ⟨markOpening ++ (w₀ ++ (c ++ [':'] ++ w₁)), k, w₂, d, w₃, ?_, ?_, hk, hw₂, hd, hw₃⟩
    · simp only [List.append_assoc, List.cons_append, List.nil_append]
    · exact ⟨w₀, c ++ [':'], w₁, rfl, hw₀, spells_startWord_iff.mpr ⟨c, rfl, hc⟩, hw₁⟩

lemma contains_startForm_iff : Contains StartForm line ↔ ∃ k d f, StartFactor k d f ∧ f <:+: line := by
  constructor
  · rintro ⟨f, hf, hi⟩
    obtain ⟨k, d, hf⟩ := startForm_iff.mp hf
    exact ⟨k, d, f, hf, hi⟩
  · rintro ⟨k, d, f, hf, hi⟩
    exact ⟨f, startForm_iff.mpr ⟨k, d, hf⟩, hi⟩

lemma split_of_delimiter? (h : delimiter? s = some d) : ∃ v r, s = d ++ (v ++ (markClosing ++ r)) ∧ Blank v := by
  cases s with
  | nil => cases h
  | cons c s =>
    rw [delimiter?] at h
    split at h
    · cases h
    · obtain ⟨⟨run, z⟩, hz, rfl⟩ := Option.map_eq_some_iff.mp h
      obtain ⟨rest, hl, _⟩ := longestRun?_eq_some_iff.mp hz
      obtain ⟨v, r, rfl, hv⟩ := afterClosing?_isSome_iff.mp hl.reads
      exact ⟨v, r, by rw [hl.split, List.cons_append], hv⟩

lemma exists_startFactor_of_mark? (h : mark? line = some m) :
    ∃ f, StartFactor m.keyword m.delimiter f ∧ f <:+: line := by
  obtain ⟨before, a, t, r, hloc, hl, hd⟩ := exists_located h
  obtain ⟨v, z, hr, hv⟩ := split_of_delimiter? hd
  refine ⟨_, startFactor_of_startMark hloc.start hl.holds (blank_indent r) (solid_of_delimiter? hd) hv,
    before, z, ?_⟩
  have ht : t = m.keyword ++ (indent r ++ (m.delimiter ++ (v ++ (markClosing ++ z)))) := by
    rw [← hr, indent_append_trimStart, hl.split]
  rw [hloc.split, ht]
  simp only [List.append_assoc]

lemma read_eq_ok_some_iff :
    read n line = .ok (some x) ↔
      ∃ m, mark? line = some m ∧ m.keyword.map Char.toLower = x.action.name ∧ m.delimiter = x.delimiter := by
  rw [read]
  cases mark? line with
  | none => simp only [Except.ok.injEq, reduceCtorEq, false_and, exists_false]
  | some m =>
    simp only [Option.some.injEq, exists_eq_left', ← Action.ofKeyword?_eq_some_iff]
    cases Action.ofKeyword? m.keyword with
    | none => simp only [reduceCtorEq, false_and]
    | some b =>
      obtain ⟨b', d⟩ := x
      simp only [Except.ok.injEq, Option.some.injEq, Directive.mk.injEq]

/-- A line holds a directive iff a part of it follows the grammar, so no text around a directive hides it. -/
theorem read_and_isEnd_iff (n : Nat) (line : Text) :
    (read n line = .ok none ↔ ¬ ∃ k d f, StartFactor k d f ∧ f <:+: line) ∧
      (isEnd line = true ↔ ∃ f, EndFactor f ∧ f <:+: line) ∧
      (∀ x, read n line = .ok (some x) →
        ∃ k f, StartFactor k x.delimiter f ∧ f <:+: line ∧ k.map Char.toLower = x.action.name) ∧
      ∀ before after, (read n line ≠ .ok none → read n (before ++ (line ++ after)) ≠ .ok none) ∧
        (isEnd line = true → isEnd (before ++ (line ++ after)) = true) := by
  have hnone : ∀ l, read n l = .ok none ↔ ¬ Contains StartForm l := fun l => by
    rw [read_eq_ok_none_iff, mark?_eq_none_iff]
  refine ⟨?_, ?_, fun x hx => ?_, fun before after => ⟨?_, isEnd_of_isInfix (List.infix_append' _ _ _)⟩⟩
  · rw [hnone, contains_startForm_iff]
  · simp only [isEnd_iff, endMark_iff]
  · obtain ⟨m, hm, hk, hd⟩ := read_eq_ok_some_iff.mp hx
    obtain ⟨f, hf, hi⟩ := exists_startFactor_of_mark? hm
    exact ⟨m.keyword, f, hd ▸ hf, hi, hk⟩
  · rw [ne_eq, hnone, ne_eq, hnone, not_not, not_not]
    exact fun h => h.of_isInfix (List.infix_append' _ _ _)

theorem read_and_isEnd_iff_two_openings :
    (∃ k f, StartFactor k "//".toList f ∧ f <:+: "<!-- <!--comments:toggle //-->".toList ∧
        k.map Char.toLower = Action.toggle.name) ∧
      read 3 "<!--<!-- <!--comments:toggle //--> -->".toList ≠ .ok none := by
  have hread : read 3 "<!-- <!--comments:toggle //-->".toList = .ok (some ⟨.toggle, "//".toList⟩) := rfl
  obtain ⟨-, -, hfactor, hframe⟩ := read_and_isEnd_iff 3 "<!-- <!--comments:toggle //-->".toList
  refine ⟨hfactor _ hread, (hframe "<!--".toList " -->".toList).1 ?_⟩
  rw [hread]
  rintro ⟨⟩

lemma isWord_of_map_toLower {b : Action} (h : k.map Char.toLower = b.name) : ∀ c ∈ k, isWord c = true := by
  intro c hc
  have hm : c.toLower ∈ b.name := h ▸ List.mem_map_of_mem hc
  exact isWord_of_isWord_toLower (b.isWord_of_mem_name _ hm)

/-- A start directive that opens the first markup comment of its line is read as it was written: in any
casing, with any delimiter, and with any blanks between its parts, as long as there are some before the
delimiter. Without blanks behind it the delimiter ends at the last closing of a markup comment, so none may
follow. -/
theorem read_written_anywhere {b : Action} {w₀ c w₁ w₂ w₃ : Text} (hbefore : ¬ markOpening <:+: before)
    (hw₀ : Blank w₀) (hc : c.map Char.toLower = startWord) (hw₁ : Blank w₁) (hk : k.map Char.toLower = b.name)
    (hw₂ : Blank w₂) (hne : w₂ ≠ []) (hd : d ≠ [] ∧ Solid d) (hw₃ : Blank w₃)
    (hafter : w₃ = [] → ¬ markClosing <:+: after) (n : Nat) :
    read n (before ++ (markOpening ++ (w₀ ++ (c ++ (w₁ ++ (k ++ (w₂ ++ (d ++ (w₃ ++
      (markClosing ++ after)))))))))) = .ok (some ⟨b, d⟩) := by
  have hstart : StartMark (markOpening ++ (w₀ ++ (c ++ w₁))) :=
    ⟨w₀, c, w₁, rfl, hw₀, spells_of_map_toLower hc, hw₁⟩
  have hkne : k ≠ [] := by
    rintro rfl
    exact b.name_ne_nil hk.symm
  have hmark := mark?_append hbefore hstart (isWord_of_map_toLower hk) hkne hw₂ hne hd hw₃ hafter
  refine read_eq_ok_some_iff.mpr ⟨⟨k, d⟩, ?_, hk, rfl⟩
  simpa only [List.append_assoc] using hmark

theorem read_written_anywhere_dashes :
    (¬ markOpening <:+: "<!-".toList ∧ "COMMENTs:".toList.map Char.toLower = startWord ∧
        "ToGGle".toList.map Char.toLower = Action.toggle.name ∧ ¬ markClosing <:+: " -- >".toList) ∧
      read 7 "<!-<!--COMMENTs: ToGGle\t-->----> -- >".toList = .ok (some ⟨.toggle, "-->--".toList⟩) := by
  have hbefore : ¬ markOpening <:+: "<!-".toList := by decide
  have hc : "COMMENTs:".toList.map Char.toLower = startWord := by decide
  have hk : "ToGGle".toList.map Char.toLower = Action.toggle.name := by decide
  have hd : "-->--".toList ≠ [] ∧ Solid "-->--".toList := by decide
  have hafter : ¬ markClosing <:+: " -- >".toList := by decide
  refine ⟨⟨hbefore, hc, hk, hafter⟩, ?_⟩
  have hempty : Blank [] := by decide
  have hspace : Blank [' '] := by decide
  have htab : Blank ['\t'] := by decide
  exact read_written_anywhere hbefore hempty hc hspace hk htab (by decide) hd hempty (fun _ => hafter) 7

end CommentBlocks.Directive
