import CommentBlocks.Proofs.LineBreaks

namespace CommentBlocks.Lines

open Text LineEnding

variable {e : LineEnding} {a l : Text} {lines : List Text}

lemma dropReturn_eq_self_iff : dropReturn l = l ↔ l.getLast? ≠ some '\r' := by
  refine ⟨fun h hl => ?_, dropReturn_of_getLast?⟩
  obtain ⟨u, rfl⟩ := List.getLast?_eq_some_iff.mp hl
  rw [dropReturn_append_return] at h
  exact List.cons_ne_nil '\r' [] (List.self_eq_append_right.mp h)

lemma dropReturns_eq_self_iff : dropReturns lines = lines ↔ ∀ l ∈ lines.dropLast, l.getLast? ≠ some '\r' := by
  induction lines with
  | nil => simp [dropReturns]
  | cons l ls ih =>
    cases ls with
    | nil => simp [dropReturns]
    | cons l' ls =>
      rw [dropReturns, List.dropLast_cons_cons, List.forall_mem_cons, List.cons.injEq, dropReturn_eq_self_iff, ih]

lemma join_lf_split_iff : join lf (split a) = a ↔ Uses lf a := by
  have hfree : ∀ p ∈ cut '\n' a, '\n' ∉ p := fun _ hp => sep_not_mem_of_mem_cut hp
  have hglue : join lf (cut '\n' a) = a := glue_cut '\n' a
  have hcut : join lf (split a) = a ↔ split a = cut '\n' a := by
    refine ⟨fun h => ?_, fun h => by rw [h, hglue]⟩
    rw [← h, join, LineEnding.text, cut_glue (split_ne_nil a) fun _ => newline_not_mem_of_mem_split,
      ← LineEnding.text, ← join, h]
  have huses := uses_join_iff (e := lf) hfree
  rw [hglue] at huses
  rw [hcut, split, dropReturns_eq_self_iff, huses, forall_prop_of_true rfl]

lemma uses_of_join_split (h : join (detect a) (split a) = a) : Uses (detect a) a := by
  cases hd : detect a with
  | lf => exact join_lf_split_iff.mp (hd ▸ h)
  | crlf =>
    rw [hd] at h
    rw [← h]
    exact (uses_join_iff fun _ => newline_not_mem_of_mem_split).mpr fun he => by cases he

lemma detect_join_eq (hne : lines ≠ []) (h : Separable e lines) :
    detect (join e lines) = if 2 ≤ lines.length then e else lf := by
  have hcount := count_join e hne h.1
  split_ifs with hl
  · exact detect_join h (List.count_pos_iff.mp (by omega))
  · exact detect_of_not_mem (List.count_eq_zero.mp (by omega))

/-- Splitting loses nothing iff all breaks are the same, and joining loses nothing of lines that stay apart. -/
theorem join_split_iff_and_split_join :
    (∀ content, join (detect content) (split content) = content ↔ Uses crlf content ∨ Uses lf content) ∧
      ∀ e lines, lines ≠ [] → Separable e lines →
        split (join e lines) = lines ∧ detect (join e lines) = if 2 ≤ lines.length then e else lf := by
  refine ⟨fun content => ⟨fun h => ?_, ?_⟩, fun e lines hne hs => ⟨split_join hne hs, detect_join_eq hne hs⟩⟩
  · have hu := uses_of_join_split h
    cases hd : detect content with
    | lf => exact Or.inr (hd ▸ hu)
    | crlf => exact Or.inl (hd ▸ hu)
  · rintro (h | h)
    · exact join_split h
    · exact join_split h

theorem join_split_iff_and_split_join_returns :
    split (join crlf ["a\r".toList, [], "b\r".toList]) = ["a\r".toList, [], "b\r".toList] ∧
      join (detect "a\r\nb\n".toList) (split "a\r\nb\n".toList) ≠ "a\r\nb\n".toList := by
  obtain ⟨hjoin, hsplit⟩ := join_split_iff_and_split_join
  have hs : Separable crlf ["a\r".toList, [], "b\r".toList] := ⟨by decide, by rintro ⟨⟩⟩
  refine ⟨(hsplit crlf _ (by decide) hs).1, fun h => ?_⟩
  rcases (hjoin _).mp h with hu | hu
  · exact absurd ((hu "a\r\nb".toList [] rfl).mpr rfl) (by decide)
  · exact absurd ((hu "a\r".toList "b\n".toList rfl).mp rfl) (by decide)

end CommentBlocks.Lines
