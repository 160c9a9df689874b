import CommentBlocks.Delimiters
import Mathlib.Data.List.Basic

namespace CommentBlocks.Delimiters

inductive Glyph where
  | escaped (c : Char)
  | bare (c : Char)
  deriving DecidableEq, Repr

def Glyph.char : Glyph → Char
  | escaped c => c
  | bare c => c

/-- A backslash goes with the character behind it. At the end of the text it is bare. -/
def glyphs : Text → List Glyph
  | '\\' :: c :: r => .escaped c :: glyphs r
  | c :: r => .bare c :: glyphs r
  | [] => []

def glyph (c : Char) : Glyph := if c ∈ metaChars then .escaped c else .bare c

variable {c x : Char} {s : Text}

lemma escape_cons_of_mem (h : c ∈ metaChars) (s : Text) : escape (c :: s) = '\\' :: c :: escape s := by
  simp [escape, h]

lemma escape_cons_of_not_mem (h : c ∉ metaChars) (s : Text) : escape (c :: s) = c :: escape s := by
  simp [escape, h]

lemma glyphs_cons_of_ne (h : c ≠ '\\') (r : Text) : glyphs (c :: r) = .bare c :: glyphs r := by
  rw [glyphs]
  rintro _ _ hc -
  exact h hc

@[simp] lemma char_glyph (c : Char) : (glyph c).char = c := by
  rw [glyph]
  split_ifs <;> rfl

lemma map_char_map_glyph (s : Text) : (s.map glyph).map Glyph.char = s := by
  simp [Function.comp_def]

lemma bare_ne_glyph (h : c ∈ metaChars) : .bare c ≠ glyph x := by
  rw [glyph]
  split_ifs with hx
  · simp
  · rintro ⟨⟩
    exact hx h

lemma bare_not_mem_map_glyph (h : c ∈ metaChars) : .bare c ∉ s.map glyph := by
  intro hc
  obtain ⟨x, -, hx⟩ := List.mem_map.mp hc
  exact bare_ne_glyph h hx.symm

lemma glyphs_escape_append (s t : Text) : glyphs (escape s ++ t) = s.map glyph ++ glyphs t := by
  induction s with
  | nil => rfl
  | cons c s ih =>
    by_cases hc : c ∈ metaChars
    · rw [escape_cons_of_mem hc, List.cons_append, List.cons_append, glyphs, ih, List.map_cons, glyph, if_pos hc,
        List.cons_append]
    · have hne : c ≠ '\\' := by
        rintro rfl
        exact hc (by decide)
      rw [escape_cons_of_not_mem hc, List.cons_append, glyphs_cons_of_ne hne, ih, List.map_cons, glyph, if_neg hc,
        List.cons_append]

lemma glyphs_escape (s : Text) : glyphs (escape s) = s.map glyph := by
  simpa [glyphs] using glyphs_escape_append s []

lemma glyphs_pattern (d : Delimiters) :
    glyphs d.pattern = glyphs "^(\\s*)(".toList ++ (d.opening.map glyph ++
      .bare ')' :: (glyphs "(.*)".toList ++ d.closing.map glyph)) := by
  have hstart (t : Text) : glyphs ("^(\\s*)(".toList ++ t) = glyphs "^(\\s*)(".toList ++ glyphs t := rfl
  have hbody (t : Text) : glyphs (")(.*)".toList ++ t) = .bare ')' :: (glyphs "(.*)".toList ++ glyphs t) := rfl
  have hpattern : d.pattern = "^(\\s*)(".toList ++ (escape d.opening ++ (")(.*)".toList ++ escape d.closing)) := by
    rw [pattern, List.append_assoc, List.append_assoc]
    rfl
  rw [hpattern, hstart, glyphs_escape_append, hbody, glyphs_escape]

/-- The delimiters of a pattern. The opening one reaches as far as the first bare parenthesis that closes. -/
def ofPattern (s : Text) : Delimiters :=
  -- six glyphs stand before the opening delimiter, and five between the two: its parenthesis and the body's group
  let group := (glyphs s).drop 6
  ⟨(group.takeWhile (· ≠ .bare ')')).map Glyph.char, ((group.dropWhile (· ≠ .bare ')')).drop 5).map Glyph.char⟩

lemma ofPattern_pattern (d : Delimiters) : ofPattern d.pattern = d := by
  have hopening : ∀ g ∈ d.opening.map glyph, decide (g ≠ .bare ')') = true := by
    intro g hg
    rw [decide_eq_true_eq]
    rintro rfl
    exact bare_not_mem_map_glyph (by decide) hg
  have hgroup : (glyphs d.pattern).drop 6 = d.opening.map glyph ++
      .bare ')' :: (glyphs "(.*)".toList ++ d.closing.map glyph) := by
    rw [glyphs_pattern]
    exact List.drop_left' rfl
  have hclosing : (.bare ')' :: (glyphs "(.*)".toList ++ d.closing.map glyph)).drop 5 = d.closing.map glyph := rfl
  rw [ofPattern, hgroup, List.takeWhile_append_of_pos hopening, List.dropWhile_append_of_pos hopening,
    List.takeWhile_cons_of_neg (by simp), List.dropWhile_cons_of_neg (by simp), List.append_nil, hclosing,
    map_char_map_glyph, map_char_map_glyph]

/-- An escaped text is read as its own characters, each of which stands for itself only, and delimiters that
differ have patterns that differ. -/
theorem glyphs_escape_and_pattern_inj :
    (∀ s, (glyphs (escape s)).map Glyph.char = s ∧ ∀ c ∈ metaChars, .bare c ∉ glyphs (escape s)) ∧
      ∀ d₁ d₂ : Delimiters, d₁.pattern = d₂.pattern ↔ d₁.opening = d₂.opening ∧ d₁.closing = d₂.closing := by
  refine ⟨fun s => ?_, fun d₁ d₂ => ⟨fun h => ?_, ?_⟩⟩
  · rw [glyphs_escape]
    exact ⟨map_char_map_glyph s, fun c hc => bare_not_mem_map_glyph hc⟩
  · rw [← ofPattern_pattern d₁, h, ofPattern_pattern]
    exact ⟨rfl, rfl⟩
  · rintro ⟨hopening, hclosing⟩
    rw [pattern, pattern, hopening, hclosing]

theorem glyphs_escape_and_pattern_inj_groups :
    "a".toList ++ (")(.*)".toList ++ ")(.*)b".toList) = "a)(.*)".toList ++ (")(.*)".toList ++ "b".toList) ∧
      .bare ')' ∉ glyphs (escape ")(.*)b\\".toList) ∧
      pattern ⟨"a".toList, ")(.*)b".toList⟩ ≠ pattern ⟨"a)(.*)".toList, "b".toList⟩ := by
  obtain ⟨hescape, hpattern⟩ := glyphs_escape_and_pattern_inj
  refine ⟨rfl, (hescape _).2 ')' (by decide), fun h => ?_⟩
  exact absurd ((hpattern _ _).mp h).1 (by decide)

end CommentBlocks.Delimiters
