import CommentBlocks.Proofs.Roles

/-! The line breaks of a transformed document. Under `crlf` all of them are `crlf`. Under `lf` a break becomes
`crlf` when the line before it ends in a carriage return, and it is said here which lines do so once they are
rewritten: a line that is kept and that had another carriage return before its break, or an uncommented line of
which nothing is left but an indentation that ends in one. -/

namespace CommentBlocks

open Text

namespace Text

variable {a b : Text} {c : Char}

lemma getLast?_append_ne (ha : a.getLast? ≠ some c) (hb : b.getLast? ≠ some c) : (a ++ b).getLast? ≠ some c := by
  rw [List.getLast?_append]
  cases h : b.getLast? with
  | none => simpa using ha
  | some y => simpa [h] using hb

lemma getLast?_ne_of_not_mem (h : c ∉ a) : a.getLast? ≠ some c := fun hl => h (List.mem_of_getLast? hl)

end Text

namespace Delimiters

variable {d : Delimiters} {p : Nat} {line : Text} {x : Detection} {c : Char}

lemma getLast?_comment_ne (hd : d.Solid) (h : d.isCommented line = false) (hb : isBlank c = true) (hs : c ≠ ' ') :
    (d.comment p line).getLast? ≠ some c := by
  have hpad : (List.replicate p ' ').getLast? ≠ some c :=
    getLast?_ne_of_not_mem fun hm => hs (List.eq_of_mem_replicate hm)
  have hinner : (d.inner p line).getLast? ≠ some c := by
    refine getLast?_append_ne hpad (getLast?_append_ne (getLast?_trim_ne hb line) ?_)
    split
    · simp
    · exact hpad
  have hfront : (Text.indent line ++ d.opening).getLast? ≠ some c := by
    obtain ⟨y, r, ho, _⟩ := hd.visible
    rw [List.getLast?_append_of_ne_nil _ (by simp [ho])]
    exact getLast?_ne_of_not_mem (not_mem_of_solid hb hd.opening)
  have hclosing : d.closing.getLast? ≠ some c := getLast?_ne_of_not_mem (not_mem_of_solid hb hd.closing)
  rw [comment_of_not_commented h, ← List.append_assoc]
  exact getLast?_append_ne hfront (getLast?_append_ne hinner hclosing)

lemma getLast?_uncomment_iff (h : d.detect? line = some x) (hb : isBlank c = true) :
    (d.uncomment line).getLast? = some c ↔ Blank x.body ∧ x.indent.getLast? = some c := by
  rw [uncomment_of_detect? h]
  by_cases hx : Blank x.body
  · rw [trim_eq_nil_iff.mpr hx, List.append_nil, and_iff_right hx]
  · have hne : trim x.body ≠ [] := fun he => hx (trim_eq_nil_iff.mp he)
    rw [List.getLast?_append_of_ne_nil _ hne]
    simp only [getLast?_trim_ne hb, hx, false_and]

end Delimiters

def Action.ReturnStays (a : Action) (d : Delimiters) (line : Text) : Prop :=
  match d.detect? line with
  | none => a = uncomment ∧ line.getLast? = some '\r'
  | some x => if a = comment then line.getLast? = some '\r' else Blank x.body ∧ x.indent.getLast? = some '\r'

instance (a : Action) (d : Delimiters) (line : Text) : Decidable (a.ReturnStays d line) :=
  match h : d.detect? line with
  | none => decidable_of_iff (a = .uncomment ∧ line.getLast? = some '\r') (by rw [Action.ReturnStays, h])
  | some x =>
    decidable_of_iff
      (if a = .comment then line.getLast? = some '\r' else Blank x.body ∧ x.indent.getLast? = some '\r')
      (by rw [Action.ReturnStays, h])

lemma Action.getLast?_apply_iff {a : Action} {d : Delimiters} {p : Nat} {line : Text} (hd : d.Solid)
    (hn : '\n' ∉ line) : (a.apply d p line).getLast? = some '\r' ↔ a.ReturnStays d line := by
  cases hx : d.detect? line with
  | none =>
    have hc : d.isCommented line = false := by rw [Delimiters.isCommented, hx, Option.isSome_none]
    have hcomment := Delimiters.getLast?_comment_ne (p := p) hd hc (c := '\r') (by decide) (by decide)
    cases a with
    | comment => simp only [apply, hcomment, ReturnStays, hx, reduceCtorEq, false_and]
    | uncomment => simp only [apply, Delimiters.uncomment_of_not_commented hc, ReturnStays, hx, true_and]
    | toggle =>
      simp only [apply, Delimiters.toggle_of_not_commented hc hn, hcomment, ReturnStays, hx, reduceCtorEq,
        false_and]
  | some x =>
    have hc : d.isCommented line = true := by rw [Delimiters.isCommented, hx, Option.isSome_some]
    have huncomment := Delimiters.getLast?_uncomment_iff hx (c := '\r') (by decide)
    cases a with
    | comment => simp only [apply, Delimiters.comment_of_commented hc, ReturnStays, hx, if_true]
    | uncomment => simp only [apply, huncomment, ReturnStays, hx, reduceCtorEq, if_false]
    | toggle =>
      simp only [apply, Delimiters.toggle_of_commented hc, huncomment, ReturnStays, hx, reduceCtorEq, if_false]

namespace Document

open Lines LineEnding

variable {o : Options} {content line : Text} {out : Outcome}

def Role.ReturnStays (o : Options) (line : Text) : Role → Prop
  | opener _ => o.removeDirectiveLines = false ∧ line.getLast? = some '\r'
  | closer _ => o.removeDirectiveLines = false ∧ line.getLast? = some '\r'
  | inside b => b.action.ReturnStays b.delimiters line
  | _ => line.getLast? = some '\r'

instance (o : Options) (line : Text) : (r : Role) → Decidable (r.ReturnStays o line)
  | .opener _ => inferInstanceAs (Decidable (_ ∧ _))
  | .closer _ => inferInstanceAs (Decidable (_ ∧ _))
  | .inside b => inferInstanceAs (Decidable (b.action.ReturnStays b.delimiters line))
  | .outside => inferInstanceAs (Decidable (_ = _))
  | .rejected _ => inferInstanceAs (Decidable (_ = _))

lemma getLast?_directiveLine_iff :
    (directiveLine o line).getLast? = some '\r' ↔ o.removeDirectiveLines = false ∧ line.getLast? = some '\r' := by
  rw [directiveLine]
  cases o.removeDirectiveLines <;> simp

lemma Role.getLast?_rewrite_iff {r : Role} (hd : ∀ b, r = .inside b → b.delimiters.Solid) (hn : '\n' ∉ line) :
    (r.rewrite o line).getLast? = some '\r' ↔ r.ReturnStays o line := by
  cases r with
  | inside b => exact Action.getLast?_apply_iff (hd b rfl) hn
  | opener b => exact getLast?_directiveLine_iff
  | closer b => exact getLast?_directiveLine_iff
  | outside => exact Iff.rfl
  | rejected e => exact Iff.rfl

/-- The first break decides all breaks of the result, except that under `lf` each line but the last that keeps
a carriage return at its end makes a `crlf`. -/
theorem uses_transform_iff (h : transform o content = .ok out) :
    ((∃ a b, content = a ++ '\r' :: '\n' :: b ∧ '\n' ∉ a) → Uses crlf out.content) ∧
      ((¬ ∃ a b, content = a ++ '\r' :: '\n' :: b ∧ '\n' ∉ a) →
        (Uses lf out.content ↔ ∀ x ∈ (lineRoles content).dropLast, ¬ x.2.ReturnStays o x.1)) := by
  obtain ⟨_, rfl⟩ := transform_eq_ok_iff.mp h
  have hfree := newline_not_mem_rewrite o content
  rw [← detect_eq_crlf_iff]
  cases hdet : detect content with
  | crlf =>
    refine ⟨fun _ => ?_, fun hn => absurd rfl hn⟩
    exact (uses_join_iff hfree).mpr fun he => by cases he
  | lf =>
    refine ⟨fun hc => (by cases hc), fun _ => ?_⟩
    have hkeep : ∀ x ∈ (lineRoles content).dropLast,
        ((x.2.rewrite o x.1).getLast? ≠ some '\r' ↔ ¬ x.2.ReturnStays o x.1) := by
      intro x hx
      have hm := (List.dropLast_sublist _).subset hx
      exact not_congr (Role.getLast?_rewrite_iff (solid_of_inside_mem hm)
        (newline_not_mem_of_mem_split (mem_lines_of_mem_roles hm)))
    rw [uses_join_iff hfree, ← List.map_dropLast]
    simp only [true_imp_iff, List.forall_mem_map]
    exact forall₂_congr hkeep

theorem uses_transform_toggle_return :
    transform {} "x\n<!--comments:toggle //-->\n\r// a\n<!--endcomments-->\r".toList =
        .ok ⟨"x\n<!--comments:toggle //-->\n\ra\n<!--endcomments-->\r".toList, []⟩ ∧
      Uses lf "x\n<!--comments:toggle //-->\n\ra\n<!--endcomments-->\r".toList := by
  have h : transform {} "x\n<!--comments:toggle //-->\n\r// a\n<!--endcomments-->\r".toList =
      .ok ⟨"x\n<!--comments:toggle //-->\n\ra\n<!--endcomments-->\r".toList, []⟩ := rfl
  have hfirst : ¬ ∃ a b, "x\n<!--comments:toggle //-->\n\r// a\n<!--endcomments-->\r".toList =
      a ++ '\r' :: '\n' :: b ∧ '\n' ∉ a := by
    rw [← detect_eq_crlf_iff]
    decide
  exact ⟨h, ((uses_transform_iff h).2 hfirst).mpr (by decide)⟩

theorem not_uses_transform_double_return :
    transform {} "a\nb\r\r\nc".toList = .ok ⟨"a\nb\r\nc".toList, []⟩ ∧
      (¬ ∃ a b, "a\nb\r\r\nc".toList = a ++ '\r' :: '\n' :: b ∧ '\n' ∉ a) ∧ ¬ Uses lf "a\nb\r\nc".toList := by
  refine ⟨rfl, ?_, by decide⟩
  rw [← detect_eq_crlf_iff]
  decide

end Document
end CommentBlocks
