import CommentBlocks.Glob.Search
import CommentBlocks.Proofs.Results
import Mathlib.Data.Char
import Mathlib.Order.Basic

namespace CommentBlocks.Glob

variable {c x : Char} {s name r rest listed : Text} {n i : Nat} {before : Option Char} {ts : List Token}
  {part : Part} {negated : Bool}

lemma escape_nil : escape [] = [] := rfl

lemma escape_cons_of_mem (h : c ∈ metaChars) (s : Text) : escape (c :: s) = '[' :: c :: ']' :: escape s := by
  simp [escape, h]

lemma escape_cons_of_not_mem (h : c ∉ metaChars) (s : Text) : escape (c :: s) = c :: escape s := by
  simp [escape, h]

lemma escape_eq_nil_iff : escape s = [] ↔ s = [] := by
  cases s with
  | nil => simp [escape]
  | cons c s =>
    by_cases hc : c ∈ metaChars
    · simp [escape_cons_of_mem hc]
    · simp [escape_cons_of_not_mem hc]

lemma ne_slash_of_mem (h : c ∈ metaChars) : c ≠ '/' := by
  rintro rfl
  exact absurd h (by decide)

lemma slash_mem_escape_iff : '/' ∈ escape s ↔ '/' ∈ s := by
  rw [escape, List.mem_flatMap]
  constructor
  · rintro ⟨c, hc, hm⟩
    split_ifs at hm with h
    · simp [(ne_slash_of_mem (List.contains_iff_mem.mp h)).symm] at hm
    · exact List.mem_singleton.mp hm ▸ hc
  · intro h
    exact ⟨'/', h, by decide⟩

lemma escape_append (s t : Text) : escape (s ++ t) = escape s ++ escape t := List.flatMap_append

lemma escape_glue (ps : List Text) : escape (Text.glue ['/'] ps) = Text.glue ['/'] (ps.map escape) := by
  induction ps with
  | nil => rfl
  | cons piece ps ih =>
    cases ps with
    | nil => rfl
    | cons next ps =>
      rw [Text.glue_cons_cons, escape_append, escape_append, ih]
      rfl

lemma cut_escape (s : Text) : Text.cut '/' (escape s) = (Text.cut '/' s).map escape := by
  have h : escape s = Text.glue ['/'] ((Text.cut '/' s).map escape) := by rw [← escape_glue, Text.glue_cut]
  rw [h, Text.cut_glue (by simp [Text.cut_ne_nil])]
  intro piece hp
  obtain ⟨q, hq, rfl⟩ := List.mem_map.mp hp
  exact fun hs => Text.sep_not_mem_of_mem_cut hq (slash_mem_escape_iff.mp hs)

def plainToken (c : Char) : Token := if metaChars.contains c then .within [⟨c, c⟩] else .char c

lemma plainToken_of_mem (h : c ∈ metaChars) : plainToken c = .within [⟨c, c⟩] :=
  if_pos (List.contains_iff_mem.mpr h)

lemma plainToken_of_not_mem (h : c ∉ metaChars) : plainToken c = .char c :=
  if_neg fun hc => h (List.contains_iff_mem.mp hc)

lemma accepts_char : (Token.char c).accepts x = decide (c = x) := rfl

lemma accepts_within (intervals : List Interval) :
    (Token.within intervals).accepts x = intervals.any fun i => i.holds x := rfl

lemma accepts_plainToken : (plainToken c).accepts x = true ↔ x = c := by
  rw [plainToken]
  split_ifs
  · simp only [accepts_within, List.any_cons, List.any_nil, Bool.or_false, Interval.holds, Bool.and_eq_true,
      decide_eq_true_eq]
    exact ⟨fun h => le_antisymm h.2 h.1, fun h => ⟨h.ge, h.le⟩⟩
  · rw [accepts_char, decide_eq_true_eq, eq_comm]

lemma accepts_map_plainToken : accepts (s.map plainToken) name = true ↔ name = s := by
  induction s generalizing name with
  | nil => simp [accepts]
  | cons c s ih =>
    have hne : plainToken c ≠ .anyText := by
      rw [plainToken]
      split_ifs <;> simp
    cases name with
    | nil => simp [accepts]
    | cons x name => simp [accepts, accepts_plainToken, ih]

lemma class?_of_metaChar (h : c ∈ metaChars) (r : Text) : class? (c :: ']' :: r) = some (false, [c], r) := by
  simp only [metaChars, List.mem_cons, List.not_mem_nil, or_false] at h
  rcases h with rfl | rfl | rfl | rfl <;> rfl

lemma exists_tokensFrom_escape (i : Nat) (before : Option Char) (hn : (escape s ++ r).length ≤ n) :
    ∃ m j before', r.length ≤ m ∧
      tokensFrom n i before (escape s ++ r) = (tokensFrom m j before' r).map (s.map plainToken ++ ·) := by
  induction s generalizing n i before with
  | nil =>
    refine ⟨n, i, before, hn, ?_⟩
    rw [escape, List.flatMap_nil, List.nil_append]
    cases tokensFrom n i before r <;> rfl
  | cons c s ih =>
    by_cases hc : c ∈ metaChars
    · rw [escape_cons_of_mem hc] at hn ⊢
      obtain ⟨k, rfl⟩ := Nat.exists_eq_add_one.mpr (lt_of_lt_of_le (Nat.succ_pos _) hn)
      have hk : (escape s ++ r).length ≤ k := by
        simp only [List.cons_append, List.length_cons] at hn
        omega
      rw [List.cons_append, List.cons_append, List.cons_append, tokensFrom, class?_of_metaChar hc, List.map_cons,
        plainToken_of_mem hc]
      obtain ⟨m, j, before', hm, htokens⟩ := ih _ _ hk
      refine ⟨m, j, before', hm, ?_⟩
      dsimp only
      rw [htokens]
      cases tokensFrom m j before' r <;> rfl
    · rw [escape_cons_of_not_mem hc] at hn ⊢
      obtain ⟨k, rfl⟩ := Nat.exists_eq_add_one.mpr (lt_of_lt_of_le (Nat.succ_pos _) hn)
      rw [List.map_cons, plainToken_of_not_mem hc]
      simp only [metaChars, List.mem_cons, List.not_mem_nil, or_false, not_or] at hc
      obtain ⟨m, j, before', hm, htokens⟩ := ih _ _ (Nat.succ_le_succ_iff.mp hn)
      refine ⟨m, j, before', hm, ?_⟩
      rw [List.cons_append, tokensFrom, htokens]
      · cases tokensFrom m j before' r <;> rfl
      -- the character opens nothing
      all_goals grind

lemma tokens_escape (s : Text) : tokens (escape s) = .ok (s.map plainToken) := by
  have hn : (escape s ++ []).length ≤ (escape s).length := by rw [List.append_nil]
  obtain ⟨m, j, before, -, h⟩ := exists_tokensFrom_escape 0 none hn
  have hnil : tokensFrom m j before [] = .ok [] := by cases m <;> rfl
  rw [List.append_nil, hnil, Except.map, List.append_nil] at h
  exact h

inductive Part.StandsFor : Part → Text → Prop where
  | literal (s : Text) : StandsFor (.literal s) s
  | wild {ts : List Token} {s : Text} (h : ∀ name, Glob.accepts ts name = true → name = s) (hdot : s ≠ ['.'])
      (hup : s ≠ ['.', '.']) : StandsFor (.wild ts) s

lemma literal?_nil : literal? [] = some [] := rfl

lemma literal?_char (c : Char) (ts : List Token) : literal? (.char c :: ts) = (literal? ts).map (c :: ·) := rfl

lemma literal?_within (intervals : List Interval) (ts : List Token) :
    literal? (.within intervals :: ts) = none := rfl

lemma literal?_map_plainToken (s : Text) :
    literal? (s.map plainToken) = if s.any (· ∈ metaChars) then none else some s := by
  induction s with
  | nil => simp [literal?_nil]
  | cons c s ih =>
    by_cases hc : c ∈ metaChars
    · rw [List.map_cons, plainToken_of_mem hc, literal?_within, if_pos (by simp [hc])]
    · rw [List.map_cons, plainToken_of_not_mem hc, literal?_char, ih]
      simp only [List.any_cons, hc, decide_false, Bool.false_or]
      split_ifs <;> simp

def plainPart (piece : Text) : Part := Part.ofTokens (piece.map plainToken)

lemma plainPart_cases (s : Text) :
    plainPart s = .literal s ∨ plainPart s = .wild (s.map plainToken) ∧ ∃ c ∈ s, c ∈ metaChars := by
  rw [plainPart, Part.ofTokens, literal?_map_plainToken]
  by_cases h : s.any (· ∈ metaChars) = true
  · have hne : s.map plainToken ≠ [.directories] := by
      intro hd
      obtain ⟨c, -, hc⟩ := List.mem_map.mp (hd ▸ List.mem_singleton_self Token.directories)
      rw [plainToken] at hc
      split_ifs at hc
    rw [if_pos h]
    exact .inr ⟨if_neg hne, by simpa using h⟩
  · rw [if_neg h]
    exact .inl rfl

lemma standsFor_plainPart (s : Text) : (plainPart s).StandsFor s := by
  obtain h | ⟨h, c, hc, hm⟩ := plainPart_cases s
  · rw [h]
    exact .literal s
  · rw [h]
    refine .wild (fun name => accepts_map_plainToken.mp) ?_ ?_ <;> rintro rfl
    all_goals
      obtain rfl : c = '.' := by simpa using hc
      exact absurd hm (by decide)

lemma upTo_suffix (h : class?.upTo r = some (listed, rest)) : rest <:+ r := by
  induction r generalizing listed with
  | nil => cases h
  | cons c r ih =>
    by_cases hc : c = ']'
    · subst hc
      obtain ⟨-, rfl⟩ := Prod.mk.inj (Option.some.inj h)
      exact List.suffix_cons _ _
    · rw [class?.upTo.eq_3 _ _ hc] at h
      obtain ⟨⟨cs, more⟩, hmore, hx⟩ := Option.map_eq_some_iff.mp h
      obtain ⟨-, rfl⟩ := Prod.mk.inj hx
      exact (ih hmore).trans (List.suffix_cons _ _)

lemma class?_suffix (h : class? r = some (negated, listed, rest)) : rest <:+ r := by
  rw [class?.eq_def] at h
  split at h
  · obtain ⟨⟨cs, more⟩, hmore, hx⟩ := Option.map_eq_some_iff.mp h
    obtain ⟨-, -, rfl⟩ := hx
    exact ((upTo_suffix hmore).trans (List.suffix_cons _ _)).trans (List.suffix_cons _ _)
  · cases h
  · obtain ⟨⟨cs, more⟩, hmore, hx⟩ := Option.map_eq_some_iff.mp h
    obtain ⟨-, -, rfl⟩ := hx
    exact (upTo_suffix hmore).trans (List.suffix_cons _ _)
  · cases h

lemma exists_tail {token : Token} {x : Except PatternError (List Token)}
    (h : (do return token :: (← x)) = Except.ok ts) : ∃ us, ts = token :: us ∧ x = .ok us := by
  obtain ⟨us, hus, hts⟩ := exists_of_bind_eq_ok h
  exact ⟨us, (Except.ok.inj hts).symm, hus⟩

lemma tokensFrom_nil (n i : Nat) (before : Option Char) : tokensFrom n i before [] = .ok [] := by
  cases n <;> rfl

/-- The first token begins with the character `c` and with no other one. The next tokens are those of a text that
`r` ends with. -/
def Takes (n : Nat) (c : Char) (r : Text) (ts : List Token) : Prop :=
  ∃ token us j before rest, ts = token :: us ∧ tokensFrom n j before rest = .ok us ∧ rest <:+ r ∧
    ∀ x, token = .char x → x = c

lemma takes_star (h : tokensFrom (n + 1) i before ('*' :: r) = .ok ts) : Takes n '*' r ts := by
  have hdrop := List.dropWhile_suffix (fun x : Char => decide (x = '*')) (l := r)
  rw [tokensFrom] at h
  generalize r.dropWhile (fun x : Char => decide (x = '*')) = later at h hdrop
  split_ifs at h
  · obtain ⟨us, rfl, hus⟩ := exists_tail h
    exact ⟨_, us, _, _, later, rfl, hus, hdrop, by simp⟩
  · cases later with
    | nil =>
      obtain rfl := Except.ok.inj h
      exact ⟨_, [], 0, none, [], rfl, tokensFrom_nil n 0 none, hdrop, by simp⟩
    | cons x later =>
      by_cases hx : x = '/'
      · subst hx
        obtain ⟨us, rfl, hus⟩ := exists_tail h
        exact ⟨_, us, _, _, later, rfl, hus, (List.suffix_cons '/' later).trans hdrop, by simp⟩
      · split at h <;> simp_all

lemma takes_class (h : tokensFrom (n + 1) i before ('[' :: r) = .ok ts) : Takes n '[' r ts := by
  rw [tokensFrom] at h
  cases hc : class? r with
  | none =>
    rw [hc] at h
    cases h
  | some x =>
    obtain ⟨negated, listed, rest⟩ := x
    rw [hc] at h
    obtain ⟨us, rfl, hus⟩ := exists_tail h
    refine ⟨_, us, _, _, rest, rfl, hus, class?_suffix hc, fun x hx => ?_⟩
    split_ifs at hx

lemma takes_of_cons (h : tokensFrom (n + 1) i before (c :: r) = .ok ts) : Takes n c r ts := by
  by_cases hstar : c = '*'
  · exact hstar ▸ takes_star (hstar ▸ h)
  by_cases hclass : c = '['
  · exact hclass ▸ takes_class (hclass ▸ h)
  by_cases hany : c = '?'
  · subst hany
    rw [tokensFrom] at h
    obtain ⟨us, rfl, hus⟩ := exists_tail h
    exact ⟨_, us, _, _, r, rfl, hus, List.suffix_rfl, by simp⟩
  · rw [tokensFrom] at h
    · obtain ⟨us, rfl, hus⟩ := exists_tail h
      exact ⟨_, us, _, _, r, rfl, hus, List.suffix_rfl, fun x hx => (Token.char.inj hx).symm⟩
    all_goals assumption

lemma mem_of_char_mem (h : tokensFrom n i before s = .ok ts) (hc : .char c ∈ ts) : c ∈ s := by
  induction n generalizing i before s ts with
  | zero =>
    obtain rfl := Except.ok.inj h
    cases hc
  | succ n ih =>
    cases s with
    | nil =>
      obtain rfl := Except.ok.inj h
      cases hc
    | cons x r =>
      obtain ⟨token, us, j, before', rest, rfl, hus, hrest, htoken⟩ := takes_of_cons h
      rcases List.mem_cons.mp hc with rfl | hm
      · exact htoken c rfl ▸ List.mem_cons_self
      · exact List.mem_cons_of_mem x (hrest.subset (ih hus hm))

lemma char_mem_of_literal? (h : literal? ts = some name) (hc : c ∈ name) : .char c ∈ ts := by
  induction ts generalizing name with
  | nil =>
    obtain rfl := Option.some.inj h
    cases hc
  | cons t ts ih =>
    cases t with
    | char a =>
      obtain ⟨rest, hrest, rfl⟩ := Option.map_eq_some_iff.mp h
      rcases List.mem_cons.mp hc with rfl | hm
      · exact List.mem_cons_self
      · exact List.mem_cons_of_mem _ (ih hrest hm)
    | _ => cases h

lemma slash_not_mem_of_literal (h : tokens s = .ok ts) (hs : '/' ∉ s) (hp : Part.ofTokens ts = .literal name) :
    '/' ∉ name := by
  rw [Part.ofTokens] at hp
  split at hp
  · next hl =>
    obtain rfl := Part.literal.inj hp
    exact fun hc => hs (mem_of_char_mem h (char_mem_of_literal? hl hc))
  · split_ifs at hp

end CommentBlocks.Glob
