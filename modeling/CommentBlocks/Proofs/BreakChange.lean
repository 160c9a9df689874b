import CommentBlocks.Proofs.Roles

namespace CommentBlocks

open Text

namespace Lines

variable {a : Text} {lines : List Text}

def withReturns (content : Text) : Text := content.flatMap fun c => if c = '\n' then ['\r', '\n'] else [c]

lemma withReturns_append (a b : Text) : withReturns (a ++ b) = withReturns a ++ withReturns b :=
  List.flatMap_append

lemma withReturns_of_not_mem (h : '\n' ∉ a) : withReturns a = a := by
  induction a with
  | nil => rfl
  | cons c a ih =>
    obtain ⟨hc, ha⟩ := not_or.mp (List.mem_cons.not.mp h)
    have hi := ih ha
    rw [withReturns] at hi ⊢
    rw [List.flatMap_cons, if_neg (Ne.symm hc), hi, List.singleton_append]

lemma withReturns_join (h : ∀ l ∈ lines, '\n' ∉ l) : withReturns (join .lf lines) = join .crlf lines := by
  induction lines with
  | nil => rfl
  | cons l ls ih =>
    obtain ⟨hl, hls⟩ := List.forall_mem_cons.mp h
    cases ls with
    | nil => exact withReturns_of_not_mem hl
    | cons l' ls =>
      have hlf : join .lf (l :: l' :: ls) = l ++ (['\n'] ++ join .lf (l' :: ls)) := rfl
      have hcrlf : join .crlf (l :: l' :: ls) = l ++ (['\r', '\n'] ++ join .crlf (l' :: ls)) := rfl
      have hbreak : withReturns ['\n'] = ['\r', '\n'] := rfl
      rw [hlf, hcrlf, withReturns_append, withReturns_append, withReturns_of_not_mem hl, hbreak, ih hls]

end Lines

namespace Document

open Lines

variable {o : Options} {e : LineEnding} {last : Option Block} {lines lines' : List Text}

lemma transform_join (o : Options) (hne : lines ≠ []) (hs : Separable e lines) :
    transform o (join e lines) =
      (scan o 1 none lines).map fun x => ⟨join e x.1, (x.2.map Block.warning).toList⟩ := by
  have hsplit := split_join hne hs
  rw [transform, hsplit]
  cases hscan : scan o 1 none lines with
  | error err => rfl
  | ok x =>
    have hlen : x.1.length = (split (join e lines)).length := by rw [hsplit, length_of_scan hscan]
    simp only [Except.map, join_detect (detect_join hs) hlen]

lemma newline_not_mem_of_scan (hne : lines ≠ []) (h : ∀ l ∈ lines, '\n' ∉ l)
    (hscan : scan o 1 none lines = .ok (lines', last)) : ∀ l ∈ lines', '\n' ∉ l := by
  have hs : Separable .crlf lines := ⟨h, fun he => by cases he⟩
  have hroles : lineRoles (join .crlf lines) = roles 1 none lines := by rw [lineRoles, split_join hne hs]
  obtain ⟨_, rfl, _⟩ := scan_eq_ok_iff.mp hscan
  rw [← hroles]
  exact newline_not_mem_rewrite o _

/-- The line break of a document decides the line break of the result and nothing else. -/
theorem transform_join_crlf (o : Options) (hne : lines ≠ []) (h : ∀ l ∈ lines, '\n' ∉ l ∧ '\r' ∉ l) :
    (∀ err, transform o (join .crlf lines) = .error err ↔ transform o (join .lf lines) = .error err) ∧
      ∀ out, transform o (join .lf lines) = .ok out →
        transform o (join .crlf lines) = .ok ⟨withReturns out.content, out.warnings⟩ := by
  rw [transform_join o hne (separable_of_not_mem h), transform_join o hne (separable_of_not_mem h)]
  cases hscan : scan o 1 none lines with
  | error err => exact ⟨fun _ => Iff.rfl, fun out ho => by cases ho⟩
  | ok x =>
    refine ⟨fun err => iff_of_false (by rintro ⟨⟩) (by rintro ⟨⟩), fun out ho => ?_⟩
    obtain rfl := Except.ok.inj ho
    have hfree := newline_not_mem_of_scan hne (fun l hl => (h l hl).1) hscan
    simp only [Except.map, withReturns_join hfree]

theorem transform_join_crlf_toggle :
    transform {} (join .lf ["<!--comments:toggle #-->".toList, " a ".toList, "# ".toList]) =
        .ok ⟨"<!--comments:toggle #-->\n # a\n".toList, [⟨.toggle, 1⟩]⟩ ∧
      transform {} (join .crlf ["<!--comments:toggle #-->".toList, " a ".toList, "# ".toList]) =
        .ok ⟨"<!--comments:toggle #-->\r\n # a\r\n".toList, [⟨.toggle, 1⟩]⟩ := by
  have h : transform {} (join .lf ["<!--comments:toggle #-->".toList, " a ".toList, "# ".toList]) =
      .ok ⟨"<!--comments:toggle #-->\n # a\n".toList, [⟨.toggle, 1⟩]⟩ := rfl
  exact ⟨h, (transform_join_crlf {} (by decide) (by decide)).2 _ h⟩

end Document
end CommentBlocks
