import CommentBlocks.Directive
import CommentBlocks.Proofs.Marks
import CommentBlocks.Proofs.Text.Casing

/-! A start directive asks for a delimiter without blanks. A line is an end directive iff an end mark stands
somewhere in it. Uncommenting never makes one, and neither does commenting, as long as the delimiters cannot
be a part of a mark. -/

namespace CommentBlocks.Directive

open Text

variable {d : Delimiters} {p : Nat} {line : Text}

lemma solid_of_delimiter? {s r : Text} (h : delimiter? s = some r) : r ≠ [] ∧ Solid r := by
  cases s with
  | nil => cases h
  | cons c s =>
    rw [delimiter?] at h
    split at h
    · cases h
    · next hc =>
      obtain ⟨⟨run, x⟩, hr, rfl⟩ := Option.map_eq_some_iff.mp h
      obtain ⟨rest, hl, _⟩ := longestRun?_eq_some_iff.mp hr
      refine ⟨List.cons_ne_nil _ _, List.forall_mem_cons.mpr ⟨by simpa using hc, ?_⟩⟩
      intro y hy
      simpa using hl.holds y hy

lemma solid_of_mark? {m : Mark} (h : mark? line = some m) : m.delimiter ≠ [] ∧ Solid m.delimiter := by
  obtain ⟨⟨before, m'⟩, hf, rfl⟩ := Option.map_eq_some_iff.mp h
  obtain ⟨rest, _, hm⟩ := firstPlace?_eq_some hf
  simp only [markAt?, Option.bind_eq_bind, Option.bind_eq_some_iff] at hm
  obtain ⟨s, _, t, _, ⟨k, r⟩, hr, he⟩ := hm
  obtain ⟨u, _, hd⟩ := longestRun?_eq_some_iff.mp hr
  obtain rfl := Option.some.inj he
  exact solid_of_delimiter? hd

lemma exists_spec_of_read {n : Nat} {x : Directive} (h : read n line = .ok (some x)) :
    ∃ spec, spec ≠ [] ∧ Solid spec ∧ x.delimiters = Delimiters.ofSpec spec := by
  rw [read] at h
  split at h
  · cases h
  · next m hm =>
    split at h
    · next a _ =>
      cases h
      obtain ⟨hne, hs⟩ := solid_of_mark? hm
      exact ⟨m.delimiter, hne, hs, rfl⟩
    · cases h

def Spells (word s : Text) : Prop := List.Forall₂ (fun a c => isLetter a c = true) word s

def EndMark (f : Text) : Prop :=
  ∃ w e v, f = markOpening ++ (w ++ (e ++ (v ++ markClosing))) ∧ Blank w ∧ Spells endWord e ∧ Blank v

lemma toLower_of_blank {c : Char} (h : isBlank c = true) : c.toLower = c := by
  refine toLower_of_not_upper fun hc => ?_
  have hlo : 65 ≤ c.toNat := hc.1
  have hhi : c.toNat ≤ 90 := hc.2
  rw [isBlank, Ranges.holds_iff] at h
  simp only [blankRanges, List.mem_cons, List.not_mem_nil, or_false, exists_eq_or_imp, exists_eq_left] at h
  omega

lemma not_isBlank_of_isLetter {a c : Char} (ha : isBlank a = false) (h : isLetter a c = true) :
    isBlank c = false := by
  simp only [isLetter, Bool.or_eq_true, Bool.and_eq_true, decide_eq_true_eq] at h
  rcases h with h | ⟨_, rfl⟩
  · cases hc : isBlank c with
    | false => rfl
    | true =>
      rw [toLower_of_blank hc] at h
      rw [h, ha] at hc
      cases hc
  · decide

lemma afterWord?_eq_some_iff {word s r : Text} :
    afterWord? word s = some r ↔ ∃ e, s = e ++ r ∧ Spells word e := by
  induction word generalizing s with
  | nil =>
    constructor
    · intro h
      exact ⟨[], Option.some.inj h, .nil⟩
    · rintro ⟨_, rfl, he⟩
      cases he
      rfl
  | cons a as ih =>
    cases s with
    | nil =>
      simp only [afterWord?, reduceCtorEq, false_iff]
      rintro ⟨_, he, hs⟩
      cases hs
      cases he
    | cons c cs =>
      rw [afterWord?]
      split
      · next hc =>
        rw [ih]
        constructor
        · rintro ⟨e, rfl, he⟩
          exact ⟨c :: e, rfl, .cons hc he⟩
        · rintro ⟨_, hs, he⟩
          cases he with
          | cons _ he => exact ⟨_, (List.cons.inj hs).2, he⟩
      · next hc =>
        simp only [reduceCtorEq, false_iff]
        rintro ⟨_, hs, he⟩
        cases he with
        | cons hc' _ =>
          rw [(List.cons.inj hs).1] at hc
          exact hc hc'

lemma afterClosing?_isSome_iff {s : Text} :
    (afterClosing? s).isSome = true ↔ ∃ v r, s = v ++ (markClosing ++ r) ∧ Blank v := by
  simp only [afterClosing?, Option.isSome_iff_exists, after?_eq_some_iff]
  constructor
  · rintro ⟨r, hr⟩
    exact ⟨Text.indent s, r, by rw [← hr, indent_append_trimStart], blank_indent s⟩
  · rintro ⟨v, r, rfl, hv⟩
    exact ⟨r, by rw [trimStart_append hv, markClosing, List.cons_append, trimStart_cons (by decide)]⟩

lemma endAt?_isSome_iff {s : Text} : (endAt? s).isSome = true ↔ ∃ f r, s = f ++ r ∧ EndMark f := by
  simp only [endAt?, Option.bind_eq_bind, Option.isSome_bind, Option.any_eq_true, after?_eq_some_iff,
    afterWord?_eq_some_iff, afterClosing?_isSome_iff]
  constructor
  · rintro ⟨s, rfl, t, ⟨e, hs, he⟩, v, r, rfl, hv⟩
    refine ⟨_, r, ?_, Text.indent s, e, v, rfl, blank_indent s, he, hv⟩
    conv_lhs => rw [← indent_append_trimStart s, hs]
    simp only [List.append_assoc]
  · rintro ⟨_, r, rfl, w, e, v, rfl, hw, he, hv⟩
    have hs : markOpening ++ (w ++ (e ++ (v ++ markClosing))) ++ r =
        markOpening ++ (w ++ (e ++ (v ++ (markClosing ++ r)))) := by simp only [List.append_assoc]
    refine ⟨_, hs, _, ⟨e, ?_, he⟩, v, r, rfl, hv⟩
    cases he with
    | cons hc _ =>
      rw [trimStart_append hw, List.cons_append, trimStart_cons (not_isBlank_of_isLetter (by decide) hc)]

lemma isEnd_iff : isEnd line = true ↔ ∃ f, EndMark f ∧ f <:+: line := by
  rw [isEnd, firstPlace?_isSome_iff]
  simp only [endAt?_isSome_iff]
  constructor
  · rintro ⟨before, _, rfl, f, r, rfl, hf⟩
    exact ⟨f, hf, before, r, by rw [List.append_assoc]⟩
  · rintro ⟨f, hf, before, r, rfl⟩
    exact ⟨before, f ++ r, by rw [List.append_assoc], f, r, rfl, hf⟩

lemma bracketed_endMark : Bracketed EndMark where
  starts := by
    rintro f ⟨w, e, v, rfl, _⟩
    exact ⟨_, rfl⟩
  ends := by
    rintro f ⟨w, e, v, rfl, _⟩
    refine ⟨markOpening ++ (w ++ (e ++ (v ++ ['-', '-']))), ?_⟩
    simp only [markClosing, List.append_assoc, List.cons_append, List.nil_append]

lemma isEnd_of_isInfix {s : Text} (h : s <:+: line) (hs : isEnd s = true) : isEnd line = true :=
  isEnd_iff.mpr (Contains.of_isInfix (isEnd_iff.mp hs) h)

lemma isEnd_of_isEnd_uncomment (h : isEnd (d.uncomment line) = true) : isEnd line = true :=
  isEnd_iff.mpr (Delimiters.contains_of_uncomment bracketed_endMark (isEnd_iff.mp h))

lemma isEnd_of_isEnd_inner (h : isEnd (d.inner p line) = true) : isEnd line = true :=
  isEnd_iff.mpr (Delimiters.contains_of_inner bracketed_endMark (isEnd_iff.mp h))

lemma isEnd_of_isEnd_apply {a : Action} (ho : '<' ∉ d.opening) (hc : '>' ∉ d.closing)
    (h : isEnd (a.apply d p line) = true) : isEnd line = true :=
  isEnd_iff.mpr (Action.contains_of_apply bracketed_endMark ho hc (isEnd_iff.mp h))

lemma not_mem_closing_of_not_mem_opening {spec : Text} (h : '<' ∉ (Delimiters.ofSpec spec).opening) :
    '>' ∉ (Delimiters.ofSpec spec).closing := by
  simp only [Delimiters.ofSpec] at h ⊢
  split_ifs at h ⊢
  · exact absurd h (by decide)
  · decide
  · exact List.not_mem_nil

end CommentBlocks.Directive
