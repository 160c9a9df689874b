import CommentBlocks.Proofs.Sources

namespace CommentBlocks

namespace Glob

variable {s t pattern : Text} {n m i j : Nat} {before before' : Option Char} {base : Path}

def isValid (pattern : Text) : Bool := (Pattern.parse pattern).isOk

lemma isOk_tokens_cons (token : Token) (x : Except PatternError (List Token)) :
    (do return token :: (← x)).isOk = x.isOk := by
  cases x <;> rfl

/-- The place of a text in a pattern counts only where `**` stands at the front of the text. -/
lemma isOk_tokensFrom (hn : s.length ≤ n) (hm : s.length ≤ m)
    (hb : (before.isSome && before ≠ some '/') = (before'.isSome && before' ≠ some '/')) :
    (tokensFrom n i before s).isOk = (tokensFrom m j before' s).isOk := by
  induction n generalizing s m i j before before' with
  | zero =>
    obtain rfl := List.eq_nil_of_length_eq_zero (Nat.le_zero.mp hn)
    cases m <;> rfl
  | succ n ih =>
    cases s with
    | nil => cases m <;> rfl
    | cons c r =>
      obtain ⟨m, rfl⟩ := Nat.exists_eq_add_one.mpr (lt_of_lt_of_le (Nat.succ_pos _) hm)
      have hrn := Nat.succ_le_succ_iff.mp hn
      have hrm := Nat.succ_le_succ_iff.mp hm
      by_cases hstar : c = '*'
      · subst hstar
        have hdrop := (List.dropWhile_suffix (fun x : Char => decide (x = '*')) (l := r)).length_le
        rw [tokensFrom, tokensFrom, hb]
        generalize r.dropWhile (fun x : Char => decide (x = '*')) = later at hdrop
        split_ifs
        · rw [isOk_tokens_cons, isOk_tokens_cons, ih (hdrop.trans hrn) (hdrop.trans hrm) rfl]
        · rfl
        · rfl
        · cases later with
          | nil => rfl
          | cons x later =>
            by_cases hx : x = '/'
            · subst hx
              have hlater := (Nat.le_succ _).trans hdrop
              simp only [isOk_tokens_cons]
              rw [ih (hlater.trans hrn) (hlater.trans hrm) rfl]
            · split <;> simp_all [Except.isOk, Except.toBool]
      by_cases hclass : c = '['
      · subst hclass
        rw [tokensFrom, tokensFrom]
        cases hc : class? r with
        | none => rfl
        | some x =>
          obtain ⟨negated, listed, rest⟩ := x
          have hrest := (class?_suffix hc).length_le
          simp only [isOk_tokens_cons]
          rw [ih (hrest.trans hrn) (hrest.trans hrm) rfl]
      by_cases hany : c = '?'
      · subst hany
        rw [tokensFrom, tokensFrom, isOk_tokens_cons, isOk_tokens_cons, ih hrn hrm rfl]
      · rw [tokensFrom, tokensFrom, isOk_tokens_cons, isOk_tokens_cons, ih hrn hrm rfl]
        all_goals assumption

lemma isOk_tokens_escape (s t : Text) : (tokens (escape s ++ '/' :: t)).isOk = (tokens t).isOk := by
  obtain ⟨m, j, before, hm, h⟩ := exists_tokensFrom_escape (s := s) (r := '/' :: t) 0 none le_rfl
  obtain ⟨m, rfl⟩ := Nat.exists_eq_add_one.mpr (lt_of_lt_of_le (Nat.succ_pos _) hm)
  rw [tokens, h, isOk_map, tokensFrom, isOk_tokens_cons]
  · exact isOk_tokensFrom (Nat.succ_le_succ_iff.mp hm) le_rfl rfl
  all_goals decide

lemma text_join_escape (hp : (⟨pattern⟩ : Path).isAbsolute = false) (hb : base.text ≠ []) :
    ∃ front, (Path.join ⟨escape base.text⟩ ⟨pattern⟩).text = escape front ++ '/' :: pattern := by
  rw [Path.join, if_neg (by simp [hp, escape_eq_nil_iff, hb])]
  split_ifs with hlast
  · obtain ⟨front, c, hfront⟩ := (List.eq_nil_or_concat base.text).resolve_left hb
    rw [List.concat_eq_append] at hfront
    rw [hfront, escape_append] at hlast ⊢
    by_cases hc : c ∈ metaChars
    · rw [escape_cons_of_mem hc, escape_nil] at hlast
      simp at hlast
    · rw [escape_cons_of_not_mem hc, escape_nil] at hlast ⊢
      obtain rfl : c = '/' := by simpa using hlast
      exact ⟨front, List.append_assoc _ _ _⟩
  · exact ⟨base.text, rfl⟩

lemma isOk_tokens_join_escape (hp : (⟨pattern⟩ : Path).isAbsolute = false) (base : Path) :
    (tokens (Path.join ⟨escape base.text⟩ ⟨pattern⟩).text).isOk = (tokens pattern).isOk := by
  by_cases hb : base.text = []
  · rw [Path.join, if_pos (Or.inr (escape_eq_nil_iff.mpr hb))]
  · obtain ⟨front, hfront⟩ := text_join_escape hp hb
    rw [hfront, isOk_tokens_escape]

lemma isValid_eq (s : Text) : isValid s = ((tokens s).isOk && ((cutParts (afterRoot s)).mapM readPart).isOk) := by
  rw [isValid, parse_eq]
  cases tokens s with
  | error e => rfl
  | ok ts => exact isOk_map _ _

lemma afterRoot_of_isAbsolute (hp : (⟨pattern⟩ : Path).isAbsolute = false) : afterRoot pattern = pattern :=
  if_neg (of_decide_eq_false hp)

lemma isValid_join_escape (base : Path) (pattern : Text) :
    isValid (Path.join ⟨escape base.text⟩ ⟨pattern⟩).text = isValid pattern := by
  cases hp : (⟨pattern⟩ : Path).isAbsolute with
  | true => rw [Path.join_of_isAbsolute hp]
  | false =>
    obtain ⟨-, ps, -, -, hcut⟩ := @exists_cut_join_escape _ pattern base hp rfl
    rw [isValid_eq, isValid_eq, isOk_tokens_join_escape hp, cutParts_of_cut hcut, mapM_readPart_append, isOk_map,
      afterRoot_of_isAbsolute hp]

end Glob
end CommentBlocks
