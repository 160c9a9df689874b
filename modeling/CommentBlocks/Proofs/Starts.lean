import CommentBlocks.Proofs.Keywords
import Mathlib.Data.List.Forall2

namespace CommentBlocks.Directive

open Text

variable {s t u line a k w d v r : Text} {n : Nat}

def StartForm (f : Text) : Prop :=
  ∃ a k w d v, f = a ++ (k ++ (w ++ (d ++ (v ++ markClosing)))) ∧ StartMark a ∧ (∀ c ∈ k, isWord c = true) ∧
    Blank w ∧ (d ≠ [] ∧ Solid d) ∧ Blank v

lemma bracketed_startForm : Bracketed StartForm where
  starts := by
    rintro f ⟨a, k, w, d, v, rfl, ⟨w', e, v', rfl, _⟩, _⟩
    exact ⟨_, rfl⟩
  ends := by
    rintro f ⟨a, k, w, d, v, rfl, _⟩
    refine ⟨a ++ (k ++ (w ++ (d ++ (v ++ ['-', '-'])))), ?_⟩
    simp only [markClosing, List.append_assoc, List.cons_append, List.nil_append]

lemma spells_of_map_toLower {word e : Text} (h : e.map Char.toLower = word) : Spells word e := by
  subst h
  rw [Spells, List.forall₂_map_left_iff, List.forall₂_same]
  intro c _
  simp only [isLetter, decide_true, Bool.true_or]

lemma trimStart_of_spells {word e : Text} (hne : word ≠ []) (hw : Solid word) (he : Spells word e) (r : Text) :
    trimStart (e ++ r) = e ++ r := by
  cases he with
  | nil => exact absurd rfl hne
  | cons hc _ => exact trimStart_cons (not_isBlank_of_isLetter (hw _ List.mem_cons_self) hc) _

lemma afterStart?_of_startMark (ha : StartMark a) (t : Text) : afterStart? (a ++ t) = some (trimStart t) := by
  obtain ⟨w, e, v, rfl, hw, he, hv⟩ := ha
  have hword : afterWord? startWord (trimStart (w ++ (e ++ (v ++ t)))) = some (v ++ t) := by
    rw [trimStart_append hw, trimStart_of_spells (by decide) (by decide) he]
    exact afterWord?_eq_some_iff.mpr ⟨e, rfl, he⟩
  simp only [afterStart?, List.append_assoc, after?_append, Option.bind_eq_bind, Option.bind_some, hword,
    trimStart_append hv]

lemma trimStart_word_append (hk : ∀ c ∈ k, isWord c = true) (hne : k ≠ []) (u : Text) :
    trimStart (k ++ u) = k ++ u := by
  obtain ⟨c, k, rfl⟩ := List.exists_cons_of_ne_nil hne
  exact trimStart_cons (not_isBlank_of_isWord (hk c List.mem_cons_self)) _

lemma isSome_longestRun?_of_delimited (hk : ∀ c ∈ k, isWord c = true) (hu : Delimited u) :
    (longestRun? isWord (fun u => delimiter? (trimStart u)) (trimStart (k ++ u))).isSome = true := by
  by_cases hne : k = []
  · subst hne
    refine longestRun?_isSome_iff.mpr ⟨[], trimStart u, rfl, by simp, ?_⟩
    rw [trimStart_trimStart]
    exact delimited_iff.mp hu
  · rw [trimStart_word_append hk hne]
    exact longestRun?_isSome_iff.mpr ⟨k, u, rfl, hk, delimited_iff.mp hu⟩

lemma markAt?_isSome_iff : (markAt? s).isSome = true ↔ ∃ f r, s = f ++ r ∧ StartForm f := by
  rw [markAt?_eq, Option.isSome_bind, Option.any_eq_true]
  simp only [Option.isSome_map]
  constructor
  · rintro ⟨t, hs, ht⟩
    obtain ⟨a, rfl, ha, _⟩ := startMark_of_afterStart? hs
    obtain ⟨k, u, rfl, hk, hu⟩ := longestRun?_isSome_iff.mp ht
    obtain ⟨w, d, v, r, rfl, hw, hd, hv⟩ := delimited_iff.mpr hu
    exact ⟨_, r, by simp only [List.append_assoc], a, k, w, d, v, rfl, ha, hk, hw, hd, hv⟩
  · rintro ⟨_, r, rfl, a, k, w, d, v, rfl, ha, hk, hw, hd, hv⟩
    have hs : a ++ (k ++ (w ++ (d ++ (v ++ markClosing)))) ++ r =
        a ++ (k ++ (w ++ (d ++ (v ++ (markClosing ++ r))))) := by simp only [List.append_assoc]
    rw [hs]
    exact ⟨_, afterStart?_of_startMark ha _, isSome_longestRun?_of_delimited hk ⟨w, d, v, r, rfl, hw, hd, hv⟩⟩

lemma mark?_isSome_iff : (mark? line).isSome = true ↔ Contains StartForm line := by
  rw [mark?, Option.isSome_map, firstPlace?_isSome_iff]
  simp only [markAt?_isSome_iff]
  constructor
  · rintro ⟨before, _, rfl, f, r, rfl, hf⟩
    exact ⟨f, hf, before, r, by rw [List.append_assoc]⟩
  · rintro ⟨f, hf, before, r, rfl⟩
    exact ⟨before, f ++ r, by rw [List.append_assoc], f, r, rfl, hf⟩

lemma mark?_eq_none_iff : mark? line = none ↔ ¬ Contains StartForm line := by
  rw [← mark?_isSome_iff, Bool.not_eq_true, Option.isSome_eq_false_iff, Option.isNone_iff_eq_none]

lemma mark?_apply_eq_none {x : Delimiters} {p : Nat} {b : Action} (ho : '<' ∉ x.opening) (hc : '>' ∉ x.closing)
    (h : mark? line = none) : mark? (b.apply x p line) = none := by
  rw [mark?_eq_none_iff] at h ⊢
  exact fun hm => h (Action.contains_of_apply bracketed_startForm ho hc hm)

lemma eq_nil_of_closing {x r' : Text} (h : markClosing ++ r = x ++ (markClosing ++ r'))
    (hr : ¬ markClosing <:+: r) : x = [] := by
  rcases List.append_eq_append_iff.mp h with ⟨t, _, rfl⟩ | ⟨t, ht, hr'⟩
  · exact absurd ⟨t, r', by rw [List.append_assoc]⟩ hr
  · have hs : t <:+ markClosing := ⟨x, ht.symm⟩
    simp only [markClosing, List.suffix_cons_iff, List.suffix_nil] at hs
    rcases hs with rfl | rfl | rfl | rfl
    · exact List.append_left_eq_self.mp ht.symm
    · cases hr'
    · cases hr'
    · exact absurd (List.IsPrefix.isInfix ⟨r', hr'⟩) hr

lemma delimiter?_append (hd : d ≠ [] ∧ Solid d) (hv : Blank v) (hr : v = [] → ¬ markClosing <:+: r) :
    delimiter? (d ++ (v ++ (markClosing ++ r))) = some d := by
  obtain ⟨c, d, rfl⟩ := List.exists_cons_of_ne_nil hd.1
  obtain ⟨hc, hs⟩ := List.forall_mem_cons.mp hd.2
  have hreads : (afterClosing? (v ++ (markClosing ++ r))).isSome = true :=
    afterClosing?_isSome_iff.mpr ⟨v, r, rfl, hv⟩
  obtain ⟨z, hz⟩ := Option.isSome_iff_exists.mp hreads
  have hl : LongestRun (fun c => !isBlank c) afterClosing? (d ++ (v ++ (markClosing ++ r))) d
      (v ++ (markClosing ++ r)) := by
    refine ⟨rfl, fun c hc => by simp [hs c hc], hreads, fun run rest he hrun hrest => ?_⟩
    by_contra hlt
    obtain ⟨t, rfl⟩ : d <+: run := List.prefix_of_prefix_length_le ⟨_, rfl⟩ ⟨rest, he.symm⟩ (by omega)
    have hne : t ≠ [] := by
      rintro rfl
      simp at hlt
    rw [List.append_assoc] at he
    have ht := List.append_cancel_left he
    cases v with
    | nil =>
      -- a longer run would end at another closing, inside `r`
      obtain ⟨w, r', rfl, _⟩ := afterClosing?_isSome_iff.mp hrest
      rw [List.nil_append, ← List.append_assoc] at ht
      exact hne (List.append_eq_nil_iff.mp (eq_nil_of_closing ht (hr rfl))).1
    | cons y v =>
      -- a longer run would take in the blank
      obtain ⟨y', t, rfl⟩ := List.exists_cons_of_ne_nil hne
      obtain ⟨rfl, _⟩ := List.cons.inj ht
      have hy := hrun y (by simp)
      rw [hv y List.mem_cons_self] at hy
      cases hy
  rw [List.cons_append, delimiter?, if_neg (by simp [hc]), longestRun?_eq_some_iff.mpr ⟨_, hl, hz⟩,
    Option.map_some]

lemma markAt?_append (ha : StartMark a) (hk : ∀ c ∈ k, isWord c = true) (hkne : k ≠ []) (hw : Blank w)
    (hwne : w ≠ []) (hd : d ≠ [] ∧ Solid d) (hv : Blank v) (hr : v = [] → ¬ markClosing <:+: r) :
    markAt? (a ++ (k ++ (w ++ (d ++ (v ++ (markClosing ++ r)))))) = some ⟨k, d⟩ := by
  obtain ⟨y, w, rfl⟩ := List.exists_cons_of_ne_nil hwne
  have hy : isWord y = false := by
    by_contra hc
    have hb := not_isBlank_of_isWord (Bool.not_eq_false _ ▸ hc)
    rw [hw y List.mem_cons_self] at hb
    cases hb
  have hreads : delimiter? (trimStart (y :: w ++ (d ++ (v ++ (markClosing ++ r))))) = some d := by
    obtain ⟨c, d', rfl⟩ := List.exists_cons_of_ne_nil hd.1
    rw [trimStart_append hw, List.cons_append, trimStart_cons (hd.2 c List.mem_cons_self), ← List.cons_append,
      delimiter?_append hd hv hr]
  have hl : LongestRun isWord (fun u => delimiter? (trimStart u))
      (k ++ (y :: w ++ (d ++ (v ++ (markClosing ++ r))))) k (y :: w ++ (d ++ (v ++ (markClosing ++ r)))) := by
    refine ⟨rfl, hk, Option.isSome_iff_exists.mpr ⟨d, hreads⟩, fun run rest he hrun _ => ?_⟩
    exact (prefix_of_word hrun he.symm ⟨y, _, rfl, hy⟩).length_le
  rw [markAt?_eq, afterStart?_of_startMark ha, trimStart_word_append hk hkne, Option.bind_some,
    longestRun?_eq_some_iff.mpr ⟨_, hl, hreads⟩, Option.map_some]

lemma markAt?_eq_none {before : Text} (hb : ¬ markOpening <:+: before) (hs : before = t ++ u) (hu : u ≠ [])
    (r : Text) : markAt? (u ++ (markOpening ++ r)) = none := by
  have hnone : after? markOpening (u ++ (markOpening ++ r)) = none := by
    refine Option.eq_none_iff_forall_ne_some.mpr fun z hz => ?_
    rcases List.append_eq_append_iff.mp (after?_eq_some_iff.mp hz) with ⟨x, hx, hr⟩ | ⟨x, rfl, _⟩
    · cases x with
      | nil =>
        rw [List.append_nil] at hx
        rw [hs, ← hx] at hb
        exact hb (List.suffix_append t markOpening).isInfix
      | cons c x =>
        -- `u` and the opening after it overlap in an opening, which holds no other `<`
        obtain rfl : c = '<' := (List.cons.inj hr).1.symm
        obtain ⟨y, u, rfl⟩ := List.exists_cons_of_ne_nil hu
        have htail : ['!', '-', '-'] = u ++ '<' :: x := (List.cons.inj hx).2
        have hmem : '<' ∈ u ++ '<' :: x := by simp
        rw [← htail] at hmem
        exact absurd hmem (by decide)
    · exact hb (hs ▸ List.infix_append' t markOpening x)
  rw [markAt?, hnone]
  rfl

lemma mark?_append {before : Text} (hb : ¬ markOpening <:+: before) (ha : StartMark a)
    (hk : ∀ c ∈ k, isWord c = true)
    (hkne : k ≠ []) (hw : Blank w) (hwne : w ≠ []) (hd : d ≠ [] ∧ Solid d) (hv : Blank v)
    (hr : v = [] → ¬ markClosing <:+: r) :
    mark? (before ++ (a ++ (k ++ (w ++ (d ++ (v ++ (markClosing ++ r))))))) = some ⟨k, d⟩ := by
  have hmark := markAt?_append ha hk hkne hw hwne hd hv hr
  obtain ⟨w', e, v', rfl, _⟩ := ha
  rw [List.append_assoc markOpening] at hmark ⊢
  rw [mark?, firstPlace?_append (fun _ _ hs hu => markAt?_eq_none hb hs hu _) hmark, Option.map_some]

lemma read_eq_ok_none_iff : read n line = .ok none ↔ mark? line = none := by
  rw [read]
  cases mark? line with
  | none => simp only
  | some m =>
    simp only [reduceCtorEq, iff_false]
    split <;> simp

end CommentBlocks.Directive
