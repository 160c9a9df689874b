import CommentBlocks.Proofs.Directives

/-! Which part of a start directive is its keyword. It is the whole run of word characters after `comments:` if a
delimiter of its own follows the run. Otherwise the run has to serve as both: its last character goes to the
delimiter, and what is left is taken for the keyword. -/

namespace CommentBlocks.Directive

open Text

variable {s t u line before f k r : Text} {m : Mark} {n : Nat}

lemma le_toNat_of_isAlphanum {c : Char} (h : c.isAlphanum = true) : 48 ≤ c.toNat := by
  obtain h | h := Bool.or_eq_true_iff.mp h
  · obtain h | h := Bool.or_eq_true_iff.mp h
    · have hlo : 65 ≤ c.toNat := (of_decide_eq_true h).1
      omega
    · have hlo : 97 ≤ c.toNat := of_decide_eq_true (Bool.and_eq_true_iff.mp h).1
      omega
  · exact of_decide_eq_true (Bool.and_eq_true_iff.mp h).1

lemma disjoint_wordRanges_blankRanges :
    wordRanges.all (fun x => blankRanges.all fun y => x.2 < y.1 || y.2 < x.1) = true := by
  decide +kernel

lemma not_isBlank_of_isWord {c : Char} (h : isWord c = true) : isBlank c = false := by
  by_contra hb
  obtain ⟨y, hy, hlo, hhi⟩ := Ranges.holds_iff.mp (Bool.not_eq_false _ ▸ hb)
  rw [isWord] at h
  split at h
  · next hc =>
    -- of the blanks below 0x80 all lie before the first letter or digit
    have hle : c.toNat ≤ 0x20 := by
      simp only [blankRanges, List.mem_cons, List.not_mem_nil, or_false] at hy
      rcases hy with rfl | rfl | rfl | rfl | rfl | rfl | rfl | rfl | rfl | rfl <;> simp only at hlo hhi <;> omega
    simp only [Bool.or_eq_true, decide_eq_true_eq] at h
    rcases h with h | rfl
    · have := le_toNat_of_isAlphanum h
      omega
    · exact absurd hle (by decide)
  · obtain ⟨x, hx, hlo', hhi'⟩ := Ranges.holds_iff.mp h
    have hd := List.all_eq_true.mp (List.all_eq_true.mp disjoint_wordRanges_blankRanges x hx) y hy
    simp only [Bool.or_eq_true, decide_eq_true_eq] at hd
    omega

def StartMark (f : Text) : Prop :=
  ∃ w e v, f = markOpening ++ (w ++ (e ++ v)) ∧ Blank w ∧ Spells startWord e ∧ Blank v

def afterStart? (s : Text) : Option Text := do
  let s ← after? markOpening s
  let s ← afterWord? startWord (trimStart s)
  some (trimStart s)

lemma markAt?_eq (s : Text) :
    markAt? s = (afterStart? s).bind fun t =>
      (longestRun? isWord (fun u => delimiter? (trimStart u)) t).map fun x => ⟨x.1, x.2⟩ := by
  rw [markAt?, afterStart?]
  cases after? markOpening s with
  | none => rfl
  | some s' =>
    simp only [Option.bind_eq_bind, Option.bind_some]
    cases afterWord? startWord (trimStart s') with
    | none => rfl
    | some s'' =>
      simp only [Option.bind_some]
      cases longestRun? isWord (fun u => delimiter? (trimStart u)) (trimStart s'') <;> rfl

lemma startMark_of_afterStart? (h : afterStart? s = some t) : ∃ f, s = f ++ t ∧ StartMark f ∧ trimStart t = t := by
  simp only [afterStart?, Option.bind_eq_bind, Option.bind_eq_some_iff, after?_eq_some_iff,
    afterWord?_eq_some_iff, Option.some.injEq] at h
  obtain ⟨s', rfl, s'', ⟨e, hs, he⟩, rfl⟩ := h
  refine ⟨markOpening ++ (indent s' ++ (e ++ indent s'')), ?_,
    ⟨_, e, _, rfl, blank_indent s', he, blank_indent s''⟩,
    trimStart_trimStart s''⟩
  conv_lhs => rw [← indent_append_trimStart s', hs, ← indent_append_trimStart s'']
  simp only [List.append_assoc]

def Delimited (u : Text) : Prop :=
  ∃ w d v r, u = w ++ (d ++ (v ++ (markClosing ++ r))) ∧ Blank w ∧ (d ≠ [] ∧ Solid d) ∧ Blank v

lemma delimiter?_isSome_iff :
    (delimiter? s).isSome = true ↔ ∃ d v r, s = d ++ (v ++ (markClosing ++ r)) ∧ (d ≠ [] ∧ Solid d) ∧ Blank v := by
  cases s with
  | nil =>
    simp only [delimiter?, Option.isSome_none, Bool.false_eq_true, false_iff]
    rintro ⟨d, v, r, hs, ⟨hne, _⟩, _⟩
    exact hne (List.append_eq_nil_iff.mp hs.symm).1
  | cons c s =>
    rw [delimiter?]
    split
    · next hc =>
      simp only [Option.isSome_none, Bool.false_eq_true, false_iff]
      rintro ⟨d, v, r, hs, ⟨hne, hd⟩, _⟩
      obtain ⟨y, d, rfl⟩ := List.exists_cons_of_ne_nil hne
      obtain ⟨rfl, _⟩ := List.cons.inj hs
      rw [hd c List.mem_cons_self] at hc
      cases hc
    · next hc =>
      simp only [Option.isSome_map, longestRun?_isSome_iff, afterClosing?_isSome_iff]
      constructor
      · rintro ⟨d, _, rfl, hd, v, r, rfl, hv⟩
        refine ⟨c :: d, v, r, rfl, ⟨List.cons_ne_nil c d, List.forall_mem_cons.mpr ⟨by simpa using hc, ?_⟩⟩, hv⟩
        intro y hy
        simpa using hd y hy
      · rintro ⟨d, v, r, hs, ⟨hne, hd⟩, hv⟩
        obtain ⟨y, d, rfl⟩ := List.exists_cons_of_ne_nil hne
        obtain ⟨rfl, rfl⟩ := List.cons.inj hs
        refine ⟨d, _, rfl, ?_, v, r, rfl, hv⟩
        intro y hy
        simp [hd y (List.mem_cons_of_mem _ hy)]

lemma delimited_iff : Delimited u ↔ (delimiter? (trimStart u)).isSome = true := by
  rw [delimiter?_isSome_iff]
  constructor
  · rintro ⟨w, d, v, r, rfl, hw, ⟨hne, hd⟩, hv⟩
    obtain ⟨c, d, rfl⟩ := List.exists_cons_of_ne_nil hne
    refine ⟨c :: d, v, r, ?_, ⟨hne, hd⟩, hv⟩
    rw [trimStart_append hw, List.cons_append, trimStart_cons (hd c List.mem_cons_self)]
  · rintro ⟨d, v, r, hs, hd, hv⟩
    exact ⟨indent u, d, v, r, by rw [← hs, indent_append_trimStart], blank_indent u, hd, hv⟩

lemma head?_of_delimiter? {c : Char} {d : Text} (h : delimiter? (c :: s) = some d) : d.head? = some c := by
  rw [delimiter?] at h
  split at h
  · cases h
  · obtain ⟨x, _, rfl⟩ := Option.map_eq_some_iff.mp h
    rfl

lemma prefix_of_word {w d z : Text} (hw : ∀ c ∈ w, isWord c = true) (h : w ++ s = d ++ z)
    (hz : ∃ c z', z = c :: z' ∧ isWord c = false) : w <+: d := by
  rcases List.append_eq_append_iff.mp h with ⟨t, rfl, _⟩ | ⟨t, rfl, ht⟩
  · exact List.prefix_append w t
  · obtain ⟨c, z', rfl, hc⟩ := hz
    cases t with
    | nil => simp
    | cons y t =>
      obtain ⟨rfl, _⟩ := List.cons.inj ht
      rw [hw c (by simp)] at hc
      cases hc

lemma not_isWord_head_closing {v : Text} (hv : Blank v) (r : Text) :
    ∃ c z, v ++ (markClosing ++ r) = c :: z ∧ isWord c = false := by
  cases v with
  | nil => exact ⟨'-', _, rfl, by decide⟩
  | cons c v =>
    refine ⟨c, _, rfl, ?_⟩
    by_contra hc
    have hb := not_isBlank_of_isWord (Bool.not_eq_false _ ▸ hc)
    rw [hv c List.mem_cons_self] at hb
    cases hb

lemma isSome_delimiter?_of_word {w : Text} {c : Char} (hw : ∀ x ∈ w, isWord x = true) (hc : isWord c = true)
    (h : (delimiter? (w ++ c :: s)).isSome = true) : (delimiter? (c :: s)).isSome = true := by
  obtain ⟨d, v, r, hs, ⟨_, hd⟩, hv⟩ := delimiter?_isSome_iff.mp h
  have hwc : ∀ x ∈ w ++ [c], isWord x = true := List.forall_mem_append.mpr ⟨hw, by simpa using hc⟩
  rw [List.append_cons] at hs
  obtain ⟨q, rfl⟩ := prefix_of_word hwc hs (not_isWord_head_closing hv r)
  rw [List.append_assoc, List.append_assoc, List.append_assoc] at hs
  have hcq : Solid (c :: q) := fun x hx =>
    hd x (by rw [List.append_assoc]; exact List.mem_append_right w hx)
  exact delimiter?_isSome_iff.mpr ⟨c :: q, v, r, List.append_cancel_left hs, ⟨List.cons_ne_nil c q, hcq⟩, hv⟩

lemma trimStart_of_word {w : Text} {c : Char} (hw : ∀ x ∈ w, isWord x = true) (hc : isWord c = true) :
    trimStart (w ++ c :: s) = w ++ c :: s := by
  cases w with
  | nil => exact trimStart_cons (not_isBlank_of_isWord hc) s
  | cons x w => exact trimStart_cons (not_isBlank_of_isWord (hw x List.mem_cons_self)) _

lemma run_of_longestRun (h : LongestRun isWord (fun u => delimiter? (trimStart u)) t k r) :
    (k = t.takeWhile isWord ∧ Delimited (t.dropWhile isWord)) ∨
      (¬ Delimited (t.dropWhile isWord) ∧ ∃ c, t.takeWhile isWord = k ++ [c] ∧ r.head? = some c) := by
  have hrun : t.takeWhile isWord = k ++ r.takeWhile isWord := by
    rw [h.split, List.takeWhile_append_of_pos h.holds]
  have hrest : t.dropWhile isWord = r.dropWhile isWord := by
    rw [h.split, List.dropWhile_append_of_pos h.holds]
  have hsplit : r.takeWhile isWord ++ r.dropWhile isWord = r := List.takeWhile_append_dropWhile
  have hword : ∀ x ∈ r.takeWhile isWord, isWord x = true := fun x hx => List.mem_takeWhile_imp hx
  -- no longer keyword leaves a delimiter
  have hlong : ∀ w z, r = w ++ z → (∀ x ∈ w, isWord x = true) → (delimiter? (trimStart z)).isSome = true →
      w = [] := by
    intro w z hr hw hz
    have hl := h.longest (k ++ w) z (by rw [h.split, hr, List.append_assoc])
      (List.forall_mem_append.mpr ⟨h.holds, hw⟩) hz
    rw [List.length_append] at hl
    exact List.eq_nil_of_length_eq_zero (by omega)
  rw [hrun, hrest]
  obtain hnil | ⟨w, c, hc⟩ := List.eq_nil_or_concat (r.takeWhile isWord)
  · rw [hnil, List.nil_append] at hsplit
    rw [hnil, List.append_nil, hsplit]
    exact Or.inl ⟨rfl, delimited_iff.mpr h.reads⟩
  · rw [List.concat_eq_append] at hc
    rw [hc] at hword hsplit
    obtain ⟨hw, hcw⟩ := List.forall_mem_append.mp hword
    have hcword : isWord c = true := hcw c List.mem_cons_self
    have hr : r = w ++ c :: r.dropWhile isWord := by rw [List.append_cons, hsplit]
    -- a delimiter still reads behind `w`, so the keyword would have taken `w` in
    have hwnil : w = [] := by
      have hreads := h.reads
      rw [hr, trimStart_of_word hw hcword] at hreads
      refine hlong w _ hr hw ?_
      rw [trimStart_cons (not_isBlank_of_isWord hcword)]
      exact isSome_delimiter?_of_word hw hcword hreads
    subst hwnil
    refine Or.inr ⟨fun hd => ?_, c, by rw [hc, List.nil_append], by rw [hr]; rfl⟩
    have := hlong [c] _ hr hcw (delimited_iff.mp hd)
    cases this

/-- The start directive that is read from a line: nothing is read before it, `f` leads up to its keyword, and
`t` is what stands there. -/
structure Located (line before f t : Text) (m : Mark) : Prop where
  first : firstPlace? markAt? line = some (before, m)
  split : line = before ++ (f ++ t)
  start : StartMark f
  visible : trimStart t = t

lemma mark?_eq_some_iff : mark? line = some m ↔ ∃ before, firstPlace? markAt? line = some (before, m) := by
  rw [mark?, Option.map_eq_some_iff]
  constructor
  · rintro ⟨⟨before, _⟩, h, rfl⟩
    exact ⟨before, h⟩
  · rintro ⟨before, h⟩
    exact ⟨_, h, rfl⟩

lemma exists_located (h : mark? line = some m) :
    ∃ before f t r, Located line before f t m ∧
      LongestRun isWord (fun u => delimiter? (trimStart u)) t m.keyword r ∧
      delimiter? (trimStart r) = some m.delimiter := by
  obtain ⟨before, hfirst⟩ := mark?_eq_some_iff.mp h
  obtain ⟨s, hs, hm⟩ := firstPlace?_eq_some hfirst
  rw [markAt?_eq, Option.bind_eq_some_iff] at hm
  obtain ⟨t, ht, hm⟩ := hm
  obtain ⟨f, rfl, hf, hv⟩ := startMark_of_afterStart? ht
  obtain ⟨⟨k, d⟩, hk, rfl⟩ := Option.map_eq_some_iff.mp hm
  obtain ⟨r, hl, hd⟩ := longestRun?_eq_some_iff.mp hk
  exact ⟨before, f, t, r, ⟨hfirst, hs, hf, hv⟩, hl, hd⟩

structure Keyed (n : Nat) (line t : Text) (m : Mark) : Prop where
  accepted : ∀ x, read n line = .ok (some x) → Action.ofKeyword? m.keyword = some x.action
  refused : ∀ e, read n line = .error e →
    Action.ofKeyword? m.keyword = none ∧ e = ⟨lowercase m.keyword, n⟩
  whole : m.keyword = t.takeWhile isWord ↔ Delimited (t.dropWhile isWord)
  parted : ¬ Delimited (t.dropWhile isWord) →
    ∃ c, t.takeWhile isWord = m.keyword ++ [c] ∧ m.delimiter.head? = some c

lemma eq_of_read_ok {x : Directive} (hm : mark? line = some m) (h : read n line = .ok (some x)) :
    Action.ofKeyword? m.keyword = some x.action := by
  simp only [read, hm] at h
  cases hk : Action.ofKeyword? m.keyword with
  | some a =>
    rw [hk] at h
    obtain rfl := Option.some.inj (Except.ok.inj h)
    rfl
  | none =>
    rw [hk] at h
    cases h

lemma eq_of_read_error {e : InvalidCommand} (hm : mark? line = some m) (h : read n line = .error e) :
    Action.ofKeyword? m.keyword = none ∧ e = ⟨lowercase m.keyword, n⟩ := by
  simp only [read, hm] at h
  cases hk : Action.ofKeyword? m.keyword with
  | some a =>
    rw [hk] at h
    cases h
  | none =>
    rw [hk] at h
    exact ⟨rfl, (Except.error.inj h).symm⟩

/-- The keyword is the whole run of word characters exactly when a delimiter of its own follows the run. If none
does, the run is parted: its last character begins the delimiter, and the keyword is what stands before it. -/
theorem exists_keyed_of_read (h : read n line ≠ .ok none) :
    ∃ before f t m, Located line before f t m ∧ Keyed n line t m := by
  cases hm : mark? line with
  | none =>
    rw [read, hm] at h
    exact absurd rfl h
  | some m =>
    obtain ⟨before, f, t, r, hloc, hl, hd⟩ := exists_located hm
    have hok : ∀ x, read n line = .ok (some x) → _ := fun _ => eq_of_read_ok hm
    have herr : ∀ e, read n line = .error e → _ := fun _ => eq_of_read_error hm
    refine ⟨before, f, t, m, hloc, ?_⟩
    rcases run_of_longestRun hl with ⟨hk, hdel⟩ | ⟨hdel, c, hk, hr⟩
    · exact ⟨hok, herr, iff_of_true hk hdel, fun hn => absurd hdel hn⟩
    · refine ⟨hok, herr, iff_of_false (fun he => ?_) hdel, fun _ => ⟨c, hk, ?_⟩⟩
      · rw [← he] at hk
        simp at hk
      · obtain ⟨z, rfl⟩ := List.head?_eq_some_iff.mp hr
        have hc : isWord c = true := List.mem_takeWhile_imp (l := t) (by rw [hk]; simp)
        rw [trimStart_cons (not_isBlank_of_isWord hc)] at hd
        exact head?_of_delimiter? hd

theorem exists_keyed_closing_delimiter :
    read 3 "x <!-- comments:Toggle --> -->".toList ≠ .ok none ∧
      ∃ before f t m, Located "x <!-- comments:Toggle --> -->".toList before f t m ∧
        Keyed 3 "x <!-- comments:Toggle --> -->".toList t m := by
  have h : read 3 "x <!-- comments:Toggle --> -->".toList ≠ .ok none := by decide
  exact ⟨h, exists_keyed_of_read h⟩

theorem read_parted_run :
    ("comments -->".toList.takeWhile isWord = "comments".toList ∧ Action.ofKeyword? "comments".toList = none) ∧
      read 1 "<!-- comments:comments -->".toList = .ok (some ⟨.comment, "s".toList⟩) ∧
      read 1 "<!-- comments:html -->".toList = .error ⟨"htm".toList, 1⟩ := by
  decide

end CommentBlocks.Directive
