import CommentBlocks.Lines
import Mathlib.Tactic.Common

namespace CommentBlocks

namespace Text

lemma glue_append {sep : Text} {ps qs : List Text} (hp : ps ≠ []) (hq : qs ≠ []) :
    glue sep (ps ++ qs) = glue sep ps ++ (sep ++ glue sep qs) := by
  induction ps with
  | nil => exact absurd rfl hp
  | cons p ps ih =>
    cases ps with
    | nil =>
      obtain ⟨q, qs, rfl⟩ := List.exists_cons_of_ne_nil hq
      rfl
    | cons p' ps =>
      rw [List.cons_append, List.cons_append, glue_cons_cons, glue_cons_cons, ← List.cons_append,
        ih (List.cons_ne_nil _ _)]
      simp only [List.append_assoc]

lemma count_glue {c : Char} {sep : Text} {ps : List Text} (hs : sep.count c = 1) (hne : ps ≠ [])
    (h : ∀ p ∈ ps, c ∉ p) : (glue sep ps).count c + 1 = ps.length := by
  induction ps with
  | nil => exact absurd rfl hne
  | cons p ps ih =>
    obtain ⟨hp, hps⟩ := List.forall_mem_cons.mp h
    cases ps with
    | nil => rw [glue, List.count_eq_zero_of_not_mem hp, List.length_singleton]
    | cons q ps =>
      have hq := ih (List.cons_ne_nil q ps) hps
      rw [glue_cons_cons, List.count_append, List.count_append, List.count_eq_zero_of_not_mem hp, hs,
        List.length_cons, ← hq]
      omega

lemma cut_append_cons (sep : Char) (a b : Text) : cut sep (a ++ sep :: b) = cut sep a ++ cut sep b := by
  have hne : cut sep a ++ cut sep b ≠ [] := by
    intro h
    exact cut_ne_nil sep a (List.append_eq_nil_iff.mp h).1
  have hfree : ∀ p ∈ cut sep a ++ cut sep b, sep ∉ p := by
    intro p hp
    rcases List.mem_append.mp hp with h | h
    · exact sep_not_mem_of_mem_cut h
    · exact sep_not_mem_of_mem_cut h
  have hg : glue [sep] (cut sep a ++ cut sep b) = a ++ sep :: b := by
    rw [glue_append (cut_ne_nil sep a) (cut_ne_nil sep b), glue_cut, glue_cut, List.singleton_append]
  rw [← hg, cut_glue hne hfree]

lemma cut_append_of_not_mem {sep : Char} {a t l : Text} {ps : List Text} (h : cut sep a = ps ++ [l])
    (ht : sep ∉ t) : cut sep (a ++ t) = ps ++ [l ++ t] := by
  have hfree : ∀ p ∈ ps ++ [l], sep ∉ p := fun p hp => sep_not_mem_of_mem_cut (h ▸ hp)
  have hg : glue [sep] (ps ++ [l ++ t]) = a ++ t := by
    conv_rhs => rw [← glue_cut sep a, h]
    by_cases hps : ps = []
    · subst hps
      rfl
    · rw [glue_append hps (by simp), glue_append hps (by simp)]
      simp only [glue, List.append_assoc]
  rw [← hg, cut_glue (by simp)]
  intro p hp
  rcases List.mem_append.mp hp with hm | hm
  · exact hfree p (List.mem_append_left _ hm)
  · obtain rfl := List.mem_singleton.mp hm
    rw [List.mem_append, not_or]
    exact ⟨hfree l (List.mem_append_right _ List.mem_cons_self), ht⟩

lemma last_suffix_of_cut {sep : Char} {a l : Text} {ps : List Text} (h : cut sep a = ps ++ [l]) : l <:+ a := by
  have hg := glue_cut sep a
  rw [h] at hg
  by_cases hps : ps = []
  · subst hps
    exact ⟨[], hg⟩
  · rw [glue_append hps (by simp), ← List.append_assoc] at hg
    exact ⟨_, hg⟩

end Text

namespace LineEnding

variable {e : LineEnding} {a b : Text}

lemma detect_append (h : '\n' ∈ a) (b : Text) : detect (a ++ b) = detect a := by
  obtain ⟨p, r, rfl, hp⟩ := List.eq_append_cons_of_mem h
  rw [List.append_assoc, List.cons_append]
  by_cases hr : p.getLast? = some '\r'
  · obtain ⟨q, rfl⟩ := List.getLast?_eq_some_iff.mp hr
    rw [List.mem_append, not_or] at hp
    rw [List.append_assoc, List.append_assoc, List.singleton_append, List.singleton_append,
      detect_append_return hp.1, detect_append_return hp.1]
  · rw [detect_append_of_not_mem hp hr, detect_append_of_not_mem hp hr]

lemma detect_of_not_mem {s : Text} (h : '\n' ∉ s) : detect s = lf := by
  induction s with
  | nil => rfl
  | cons c s ih =>
    obtain ⟨hc, hs⟩ := not_or.mp (List.mem_cons.not.mp h)
    have hd : ∀ r, c = '\r' → s = '\n' :: r → False := fun r _ he => hs (he ▸ List.mem_cons_self)
    rw [detect.eq_4 c s (Ne.symm hc) hd, ih hs]

lemma detect_eq_crlf_iff {s : Text} : detect s = crlf ↔ ∃ a b, s = a ++ '\r' :: '\n' :: b ∧ '\n' ∉ a := by
  constructor
  · intro h
    by_cases hm : '\n' ∈ s
    · obtain ⟨p, r, rfl, hp⟩ := List.eq_append_cons_of_mem hm
      by_cases hr : p.getLast? = some '\r'
      · obtain ⟨q, rfl⟩ := List.getLast?_eq_some_iff.mp hr
        exact ⟨q, r, by simp, fun hq => hp (List.mem_append_left _ hq)⟩
      · rw [detect_append_of_not_mem hp hr] at h
        cases h
    · rw [detect_of_not_mem hm] at h
      cases h
  · rintro ⟨a, b, rfl, ha⟩
    exact detect_append_return ha b

lemma count_text (e : LineEnding) : e.text.count '\n' = 1 := by
  cases e <;> decide

lemma detect_append_break (ha : '\n' ∈ a → detect a = e) (hr : e = lf → a.getLast? ≠ some '\r') (b : Text) :
    detect (a ++ (e.text ++ b)) = e := by
  by_cases h : '\n' ∈ a
  · rw [detect_append h, ha h]
  · cases e with
    | lf => exact detect_append_of_not_mem h (hr rfl) b
    | crlf => exact detect_append_return h b

end LineEnding

namespace Lines

open Text LineEnding

variable {e : LineEnding} {a b : Text} {lines : List Text}

lemma dropReturns_append {xs ys : List Text} (h : ys ≠ []) :
    dropReturns (xs ++ ys) = xs.map dropReturn ++ dropReturns ys := by
  induction xs with
  | nil => rfl
  | cons x xs ih =>
    obtain ⟨z, zs, hz⟩ := List.exists_cons_of_ne_nil (List.append_ne_nil_of_right_ne_nil xs h)
    rw [List.cons_append, hz, dropReturns, ← hz, ih, List.map_cons, List.cons_append]

lemma exists_concat_cut (a : Text) : ∃ ps l, cut '\n' a = ps ++ [l] := by
  obtain h | ⟨ps, l, h⟩ := List.eq_nil_or_concat (cut '\n' a)
  · exact absurd h (cut_ne_nil _ _)
  · exact ⟨ps, l, by rw [h, List.concat_eq_append]⟩

lemma split_append_newline (a b : Text) :
    split (a ++ '\n' :: b) = (cut '\n' a).map dropReturn ++ split b := by
  rw [split, cut_append_cons, dropReturns_append (cut_ne_nil _ _), split]

lemma split_eq_of_cut {ps : List Text} {l : Text} (h : cut '\n' a = ps ++ [l]) :
    split a = ps.map dropReturn ++ [l] := by
  rw [split, h, dropReturns_append (by simp), dropReturns]

lemma dropReturn_append_return (l : Text) : dropReturn (l ++ ['\r']) = l := by
  rw [dropReturn, if_pos (by simp), List.dropLast_concat]

lemma dropReturn_of_getLast? {l : Text} (h : l.getLast? ≠ some '\r') : dropReturn l = l := by
  rw [dropReturn, if_neg h]

lemma split_append_break (hr : e = lf → a.getLast? ≠ some '\r') (b : Text) :
    split (a ++ (e.text ++ b)) = split a ++ split b := by
  obtain ⟨ps, l, hc⟩ := exists_concat_cut a
  cases e with
  | lf =>
    have hl : l.getLast? ≠ some '\r' := by
      intro h
      obtain ⟨u, rfl⟩ := List.getLast?_eq_some_iff.mp h
      obtain ⟨v, rfl⟩ := last_suffix_of_cut hc
      exact hr rfl (by rw [← List.append_assoc, List.getLast?_concat])
    rw [LineEnding.text, List.singleton_append, split_append_newline, split_eq_of_cut hc, hc, List.map_append,
      List.map_singleton, dropReturn_of_getLast? hl]
  | crlf =>
    have he : a ++ (crlf.text ++ b) = (a ++ ['\r']) ++ '\n' :: b := by
      rw [List.append_assoc]
      rfl
    rw [he, split_append_newline, cut_append_of_not_mem hc (by decide), split_eq_of_cut hc, List.map_append,
      List.map_singleton, dropReturn_append_return]

lemma split_of_not_mem (h : '\n' ∉ a) : split a = [a] := by
  rw [split, cut_of_not_mem h, dropReturns]

lemma join_singleton (e : LineEnding) (l : Text) : join e [l] = l := rfl

lemma join_append {xs ys : List Text} (hx : xs ≠ []) (hy : ys ≠ []) :
    join e (xs ++ ys) = join e xs ++ (e.text ++ join e ys) :=
  glue_append hx hy

lemma count_join (e : LineEnding) (hne : lines ≠ []) (h : ∀ l ∈ lines, '\n' ∉ l) :
    (join e lines).count '\n' + 1 = lines.length :=
  count_glue e.count_text hne h

lemma count_newline (a : Text) : a.count '\n' + 1 = (split a).length := by
  have h : (glue ['\n'] (cut '\n' a)).count '\n' + 1 = (cut '\n' a).length :=
    count_glue rfl (cut_ne_nil '\n' a) fun _ hp => sep_not_mem_of_mem_cut hp
  rw [glue_cut] at h
  rw [split, length_dropReturns, h]

lemma join_detect (ha : '\n' ∈ a → detect a = e) (hl : lines.length = (split a).length) :
    join (detect a) lines = join e lines := by
  by_cases h : '\n' ∈ a
  · rw [ha h]
  · rw [split_of_not_mem h, List.length_singleton, List.length_eq_one_iff] at hl
    obtain ⟨l, rfl⟩ := hl
    rfl

/-- No line but the last ends in what would be taken for a part of its line break. -/
def Separable (e : LineEnding) (lines : List Text) : Prop :=
  (∀ l ∈ lines, '\n' ∉ l) ∧ (e = lf → ∀ l ∈ lines.dropLast, l.getLast? ≠ some '\r')

lemma split_join (hne : lines ≠ []) (h : Separable e lines) : split (join e lines) = lines := by
  induction lines with
  | nil => exact absurd rfl hne
  | cons l ls ih =>
    have hl : split l = [l] := split_of_not_mem (h.1 l List.mem_cons_self)
    cases ls with
    | nil => exact hl
    | cons l' ls =>
      have hs : Separable e (l' :: ls) :=
        ⟨fun x hx => h.1 x (List.mem_cons_of_mem _ hx), fun he x hx => h.2 he x (List.mem_cons_of_mem _ hx)⟩
      have hj : join e (l :: l' :: ls) = l ++ (e.text ++ join e (l' :: ls)) := rfl
      rw [hj, split_append_break (fun he => h.2 he l List.mem_cons_self), hl, ih (List.cons_ne_nil _ _) hs]
      rfl

lemma dropReturn_prefix_self (l : Text) : dropReturn l <+: l := by
  rw [dropReturn]
  split
  · exact List.dropLast_prefix l
  · exact List.prefix_rfl

lemma exists_getElem?_of_dropReturns {i : Nat} {l : Text} (h : (dropReturns lines)[i]? = some l) :
    ∃ l', lines[i]? = some l' ∧ l <+: l' := by
  induction lines generalizing i with
  | nil => cases h
  | cons line rest ih =>
    cases rest with
    | nil => exact ⟨l, h, List.prefix_rfl⟩
    | cons next rest =>
      cases i with
      | zero =>
        obtain rfl := Option.some.inj h
        exact ⟨line, rfl, dropReturn_prefix_self line⟩
      | succ i => exact ih h

lemma exists_getElem?_of_split_join {i : Nat} {l : Text} (hne : lines ≠ []) (hn : ∀ l ∈ lines, '\n' ∉ l)
    (h : (split (join e lines))[i]? = some l) : ∃ l', lines[i]? = some l' ∧ l <+: l' := by
  cases e with
  | lf =>
    rw [split, join, LineEnding.text, cut_glue hne hn] at h
    exact exists_getElem?_of_dropReturns h
  | crlf =>
    have hs : Separable crlf lines := ⟨hn, fun he => by cases he⟩
    rw [split_join hne hs] at h
    exact ⟨l, h, List.prefix_rfl⟩

lemma detect_join (h : Separable e lines) (hm : '\n' ∈ join e lines) : detect (join e lines) = e := by
  match lines with
  | [] => cases hm
  | [l] => exact absurd hm (h.1 l List.mem_cons_self)
  | l :: l' :: ls =>
    have hj : join e (l :: l' :: ls) = l ++ (e.text ++ join e (l' :: ls)) := rfl
    rw [hj]
    exact detect_append_break (fun hn => absurd hn (h.1 l List.mem_cons_self))
      (fun he => h.2 he l List.mem_cons_self) _

def Uses (e : LineEnding) (content : Text) : Prop :=
  ∀ a b, content = a ++ '\n' :: b → (a.getLast? = some '\r' ↔ e = crlf)

def ReturnsInBreaks (content : Text) : Prop :=
  ∀ a b, content = a ++ '\r' :: b → b.head? = some '\n'

lemma forall_division_iff {P : Text → Char → Text → Prop} {s : Text} :
    (∀ a c b, s = a ++ c :: b → P a c b) ↔
      ∀ i, (h : i < s.length) → P (s.take i) s[i] (s.drop (i + 1)) := by
  constructor
  · intro h i hi
    exact h _ _ _ (by rw [List.getElem_cons_drop, List.take_append_drop])
  · rintro h a c b rfl
    have hi := h a.length (by simp)
    simpa using hi

instance (e : LineEnding) (content : Text) : Decidable (Uses e content) :=
  decidable_of_iff (∀ i, (h : i < content.length) → content[i] = '\n' →
      ((content.take i).getLast? = some '\r' ↔ e = crlf)) <| by
    rw [← forall_division_iff (P := fun a c _ => c = '\n' → (a.getLast? = some '\r' ↔ e = crlf))]
    exact ⟨fun h a b he => h a _ b he rfl, fun h a c b he hc => h a b (hc ▸ he)⟩

instance (content : Text) : Decidable (ReturnsInBreaks content) :=
  decidable_of_iff (∀ i, (h : i < content.length) → content[i] = '\r' →
      (content.drop (i + 1)).head? = some '\n') <| by
    rw [← forall_division_iff (P := fun _ c b => c = '\r' → b.head? = some '\n')]
    exact ⟨fun h a b he => h a _ b he rfl, fun h a c b he hc => h a b (hc ▸ he)⟩

lemma uses_tail (h : Uses e (a ++ '\n' :: b)) : Uses e b := by
  rintro u v rfl
  rw [← h (a ++ '\n' :: u) v (by simp)]
  cases u with
  | nil => simp
  | cons c u => simp [List.getLast?_append, List.getLast?_cons_cons]

lemma uses_append_newline (ha : '\n' ∉ a) :
    Uses e (a ++ '\n' :: b) ↔ (a.getLast? = some '\r' ↔ e = crlf) ∧ Uses e b := by
  constructor
  · intro h
    exact ⟨h a b rfl, uses_tail h⟩
  · rintro ⟨h, hb⟩ u v he
    rcases List.append_eq_append_iff.mp he with ⟨t, rfl, ht⟩ | ⟨t, rfl, ht⟩
    · cases t with
      | nil => simpa using h
      | cons c t =>
        obtain ⟨rfl, rfl⟩ := List.cons.inj ht
        rw [List.getLast?_append, ← hb t v rfl]
        cases t with
        | nil => simp
        | cons c t => simp [List.getLast?_cons_cons]
    · cases t with
      | nil => simpa using h
      | cons c t =>
        obtain ⟨rfl, _⟩ := List.cons.inj ht
        exact absurd (by simp) ha

lemma uses_of_not_mem (h : '\n' ∉ a) : Uses e a := by
  rintro u v rfl
  exact absurd (by simp) h

lemma uses_join_iff (h : ∀ l ∈ lines, '\n' ∉ l) :
    Uses e (join e lines) ↔ (e = lf → ∀ l ∈ lines.dropLast, l.getLast? ≠ some '\r') := by
  induction lines with
  | nil => simp [join, glue, uses_of_not_mem]
  | cons l ls ih =>
    obtain ⟨hl, hls⟩ := List.forall_mem_cons.mp h
    cases ls with
    | nil => simp [join_singleton, uses_of_not_mem hl]
    | cons l' ls =>
      have hj : join e (l :: l' :: ls) = l ++ (e.text ++ join e (l' :: ls)) := rfl
      rw [hj, List.dropLast_cons_cons, List.forall_mem_cons]
      cases e with
      | lf =>
        have hu := uses_append_newline (e := lf) (b := join lf (l' :: ls)) hl
        rw [LineEnding.text, List.singleton_append, hu, ih hls]
        simp
      | crlf =>
        have hr : '\n' ∉ l ++ ['\r'] := by simp [hl]
        have hu := uses_append_newline (e := crlf) (b := join crlf (l' :: ls)) hr
        have he : l ++ (crlf.text ++ join crlf (l' :: ls)) = (l ++ ['\r']) ++ '\n' :: join crlf (l' :: ls) := by
          rw [List.append_assoc]
          rfl
        rw [he, hu, ih hls]
        simp

lemma returnsInBreaks_tail (h : ReturnsInBreaks (a ++ b)) : ReturnsInBreaks b := by
  rintro u v rfl
  exact h (a ++ u) v (by rw [List.append_assoc])

lemma dropReturn_append_text (h : a.getLast? = some '\r' ↔ e = crlf) :
    dropReturn a ++ e.text = a ++ ['\n'] := by
  cases e with
  | lf =>
    rw [dropReturn_of_getLast? (fun hr => by cases h.mp hr)]
    rfl
  | crlf =>
    obtain ⟨u, rfl⟩ := List.getLast?_eq_some_iff.mp (h.mpr rfl)
    rw [dropReturn_append_return, List.append_assoc]
    rfl

lemma join_dropReturns {ps : List Text} (h : Uses e (glue ['\n'] ps)) :
    join e (dropReturns ps) = glue ['\n'] ps := by
  induction ps with
  | nil => rfl
  | cons p ps ih =>
    cases ps with
    | nil => rfl
    | cons q ps =>
      rw [glue_cons_cons, List.singleton_append] at h
      have hd : dropReturns (q :: ps) ≠ [] := by
        intro h
        have hl := length_dropReturns (q :: ps)
        rw [h] at hl
        cases hl
      have hj := join_append (e := e) (List.cons_ne_nil (dropReturn p) []) hd
      rw [List.singleton_append] at hj
      rw [dropReturns, hj, join_singleton, ih (uses_tail h), ← List.append_assoc,
        dropReturn_append_text (h p _ rfl), glue_cons_cons, List.append_assoc]

lemma detect_of_uses (h : Uses e a) (hm : '\n' ∈ a) : detect a = e := by
  obtain ⟨p, r, rfl, hp⟩ := List.eq_append_cons_of_mem hm
  have he := h p r rfl
  cases e with
  | lf => exact detect_append_of_not_mem hp (fun hr => by cases he.mp hr) r
  | crlf =>
    obtain ⟨q, rfl⟩ := List.getLast?_eq_some_iff.mp (he.mpr rfl)
    rw [List.mem_append, not_or] at hp
    rw [List.append_assoc]
    exact detect_append_return hp.1 r

lemma join_split (h : Uses e a) : join (detect a) (split a) = a := by
  rw [join_detect (detect_of_uses h) rfl]
  have hg := glue_cut '\n' a
  have hj : join e (dropReturns (cut '\n' a)) = glue ['\n'] (cut '\n' a) := join_dropReturns (by rwa [hg])
  rw [split, hj, hg]

lemma return_not_mem_of_not_mem (hr : ReturnsInBreaks a) (hn : '\n' ∉ a) : '\r' ∉ a := by
  intro hm
  obtain ⟨u, v, rfl⟩ := List.append_of_mem hm
  obtain ⟨w, rfl⟩ := List.head?_eq_some_iff.mp (hr u v rfl)
  exact hn (by simp)

lemma eq_nil_of_return {u v : Text} (h : ReturnsInBreaks (u ++ '\r' :: (v ++ b))) (hn : '\n' ∉ v) :
    v = [] ∧ b.head? = some '\n' := by
  have hv := h u (v ++ b) rfl
  cases v with
  | nil => exact ⟨rfl, hv⟩
  | cons c v =>
    obtain rfl : c = '\n' := by simpa using hv
    exact absurd List.mem_cons_self hn

lemma return_not_mem_dropReturn {p : Text} (hr : ReturnsInBreaks (p ++ '\n' :: b)) (hn : '\n' ∉ p) :
    '\r' ∉ dropReturn p := by
  intro hm
  obtain ⟨u, v, huv⟩ := List.append_of_mem hm
  by_cases hl : p.getLast? = some '\r'
  · obtain ⟨q, rfl⟩ := List.getLast?_eq_some_iff.mp hl
    rw [dropReturn_append_return] at huv
    subst huv
    have hv : '\n' ∉ v := fun hm => hn (by simp [hm])
    obtain ⟨_, hb⟩ := eq_nil_of_return (v := v) (b := '\r' :: '\n' :: b) (by simpa using hr) hv
    cases hb
  · rw [dropReturn_of_getLast? hl] at huv
    subst huv
    have hv : '\n' ∉ v := fun hm => hn (by simp [hm])
    obtain ⟨rfl, _⟩ := eq_nil_of_return (by simpa using hr) hv
    exact hl (by simp)

lemma return_not_mem_dropReturns {ps : List Text} (hn : ∀ p ∈ ps, '\n' ∉ p)
    (hr : ReturnsInBreaks (glue ['\n'] ps)) : ∀ l ∈ dropReturns ps, '\r' ∉ l := by
  induction ps with
  | nil =>
    intro l hl
    cases hl
  | cons p ps ih =>
    have hp := hn p List.mem_cons_self
    cases ps with
    | nil =>
      intro l hl
      obtain rfl := List.mem_singleton.mp hl
      exact return_not_mem_of_not_mem hr hp
    | cons q ps =>
      rw [glue_cons_cons] at hr
      intro l hl
      rw [dropReturns, List.mem_cons] at hl
      rcases hl with rfl | hl
      · exact return_not_mem_dropReturn hr hp
      · rw [← List.append_assoc] at hr
        exact ih (fun x hx => hn x (List.mem_cons_of_mem _ hx)) (returnsInBreaks_tail hr) l hl

lemma return_not_mem_of_mem_split (h : ReturnsInBreaks a) : ∀ l ∈ split a, '\r' ∉ l :=
  return_not_mem_dropReturns (fun _ hp => sep_not_mem_of_mem_cut hp) (by rwa [glue_cut])

lemma separable_of_not_mem (h : ∀ l ∈ lines, '\n' ∉ l ∧ '\r' ∉ l) : Separable e lines := by
  refine ⟨fun l hl => (h l hl).1, ?_⟩
  intro _ l hl hr
  have hm := (h l ((List.dropLast_sublist lines).subset hl)).2
  obtain ⟨u, rfl⟩ := List.getLast?_eq_some_iff.mp hr
  exact hm (by simp)

end Lines
end CommentBlocks
