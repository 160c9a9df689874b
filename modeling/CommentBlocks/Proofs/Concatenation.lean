import CommentBlocks.Proofs.Roles

namespace CommentBlocks

def InvalidCommand.shift (k : Nat) (e : InvalidCommand) : InvalidCommand := { e with line := e.line + k }

def Warning.shift (k : Nat) (w : Warning) : Warning := { w with openedAt := w.openedAt + k }

namespace Document

def Block.shift (k : Nat) (b : Block) : Block := { b with openedAt := b.openedAt + k }

variable {o : Options} {n : Nat} {block : Option Block} {line : Text}

lemma read_shift (k n : Nat) (line : Text) :
    Directive.read (n + k) line = (Directive.read n line).mapError (InvalidCommand.shift k) := by
  rw [Directive.read, Directive.read]
  split
  · rfl
  · split <;> rfl

lemma step_shift (k : Nat) :
    step o (n + k) (block.map (Block.shift k)) line =
      match step o n block line with
      | .error e => .error (e.shift k)
      | .ok (line', next) => .ok (line', next.map (Block.shift k)) := by
  cases block with
  | some b =>
    rw [Option.map_some, step, step]
    split <;> rfl
  | none =>
    rw [Option.map_none, step, step, read_shift]
    cases Directive.read n line with
    | error e => rfl
    | ok x => cases x <;> rfl

lemma scan_shift (o : Options) (n : Nat) (block : Option Block) (k : Nat) (lines : List Text) :
    scan o (n + k) (block.map (Block.shift k)) lines =
      match scan o n block lines with
      | .error e => .error (e.shift k)
      | .ok (lines', last) => .ok (lines', last.map (Block.shift k)) := by
  induction lines generalizing n block with
  | nil => rfl
  | cons line lines ih =>
    rw [scan, scan, step_shift]
    cases step o n block line with
    | error e => rfl
    | ok x =>
      obtain ⟨line', next⟩ := x
      have hn : n + k + 1 = n + 1 + k := by omega
      simp only [hn, ih]
      cases scan o (n + 1) next lines with
      | error e => rfl
      | ok y => rfl

lemma scan_append (o : Options) (n : Nat) (block : Option Block) (xs ys : List Text) :
    scan o n block (xs ++ ys) =
      match scan o n block xs with
      | .error e => .error e
      | .ok (xs', mid) =>
        match scan o (n + xs.length) mid ys with
        | .error e => .error e
        | .ok (ys', last) => .ok (xs' ++ ys', last) := by
  induction xs generalizing n block with
  | nil =>
    simp only [List.nil_append, List.length_nil, Nat.add_zero, scan]
    cases scan o n block ys with
    | error e => rfl
    | ok y => rfl
  | cons x xs ih =>
    have hn : n + (x :: xs).length = n + 1 + xs.length := by
      rw [List.length_cons]
      omega
    rw [List.cons_append, scan, scan, hn]
    cases step o n block x with
    | error e => rfl
    | ok r =>
      simp only [ih]
      cases scan o (n + 1) r.2 xs with
      | error e => rfl
      | ok r' =>
        simp only
        cases scan o (n + 1 + xs.length) r'.2 ys with
        | error e => rfl
        | ok y => rfl

variable {e : LineEnding} {a b : Text} {out out' : Outcome}

lemma scan_split_append {lines : List Text} (hr : e = .lf → a.getLast? ≠ some '\r')
    (ha : scan o 1 none (Lines.split a) = .ok (lines, none)) :
    scan o 1 none (Lines.split (a ++ (e.text ++ b))) =
      match scan o 1 none (Lines.split b) with
      | .error err => .error (err.shift (Lines.split a).length)
      | .ok (lines', last) => .ok (lines ++ lines', last.map (Block.shift (Lines.split a).length)) := by
  have hs := scan_shift o 1 none (Lines.split a).length (Lines.split b)
  rw [Option.map_none] at hs
  rw [Lines.split_append_break hr, scan_append, ha]
  simp only [hs]
  cases scan o 1 none (Lines.split b) with
  | error err => rfl
  | ok x => rfl

lemma exists_scan_of_warnings_nil (h : transform o a = .ok out) (hw : out.warnings = []) :
    ∃ lines, scan o 1 none (Lines.split a) = .ok (lines, none) ∧
      out.content = Lines.join (LineEnding.detect a) lines := by
  obtain ⟨lines, last, hs, rfl⟩ := transform_eq_ok_iff_scan.mp h
  cases last with
  | none => exact ⟨lines, hs, rfl⟩
  | some x => cases hw

lemma warning_shift (k : Nat) (last : Option Block) :
    ((last.map (Block.shift k)).map Block.warning).toList =
      (last.map Block.warning).toList.map (Warning.shift k) := by
  cases last with
  | none => rfl
  | some x => rfl

lemma transform_append_of_ok (ha : '\n' ∈ a → LineEnding.detect a = e)
    (hb : '\n' ∈ b → LineEnding.detect b = e) (hr : e = .lf → a.getLast? ≠ some '\r')
    (h : transform o a = .ok out) (hw : out.warnings = []) (h' : transform o b = .ok out') :
    transform o (a ++ (e.text ++ b)) = .ok ⟨out.content ++ (e.text ++ out'.content),
      out'.warnings.map (Warning.shift (Lines.split a).length)⟩ := by
  obtain ⟨xs, hx, hc⟩ := exists_scan_of_warnings_nil h hw
  obtain ⟨ys, last, hy, rfl⟩ := transform_eq_ok_iff_scan.mp h'
  have hs := scan_split_append (b := b) hr hx
  rw [hy] at hs
  refine transform_eq_ok_iff_scan.mpr ⟨_, _, hs, ?_⟩
  have hlx := length_of_scan hx
  have hly := length_of_scan hy
  have hxs : xs ≠ [] := by
    rintro rfl
    exact Lines.split_ne_nil a (List.eq_nil_of_length_eq_zero hlx.symm)
  have hys : ys ≠ [] := by
    rintro rfl
    exact Lines.split_ne_nil b (List.eq_nil_of_length_eq_zero hly.symm)
  rw [hc, LineEnding.detect_append_break ha hr, Lines.join_append hxs hys, Lines.join_detect ha hlx,
    Lines.join_detect hb hly, warning_shift]

lemma transform_append_of_error (hr : e = .lf → a.getLast? ≠ some '\r') {err : InvalidCommand}
    (h : transform o a = .error err) : transform o (a ++ (e.text ++ b)) = .error err := by
  rw [transform_eq_error_iff_scan] at h ⊢
  rw [Lines.split_append_break hr, scan_append, h]

/-- Transforming respects concatenation at a break after which no block is open. The second document may be
transformed on its own, up to the numbers of its lines; an error in the first one is the error of both. -/
theorem transform_append_break (o : Options) (ha : '\n' ∈ a → LineEnding.detect a = e)
    (hb : '\n' ∈ b → LineEnding.detect b = e) (hr : e = .lf → a.getLast? ≠ some '\r') :
    (∀ out, transform o a = .ok out → out.warnings = [] →
      (∀ out', transform o b = .ok out' → transform o (a ++ (e.text ++ b)) =
        .ok ⟨out.content ++ (e.text ++ out'.content),
          out'.warnings.map (Warning.shift (Lines.split a).length)⟩) ∧
      (∀ err, transform o b = .error err →
        transform o (a ++ (e.text ++ b)) = .error (err.shift (Lines.split a).length))) ∧
    (∀ err, transform o a = .error err → transform o (a ++ (e.text ++ b)) = .error err) := by
  refine ⟨fun out h hw => ⟨fun out' h' => transform_append_of_ok ha hb hr h hw h', ?_⟩,
    fun err h => transform_append_of_error hr h⟩
  intro err h'
  obtain ⟨xs, hx, _⟩ := exists_scan_of_warnings_nil h hw
  rw [transform_eq_error_iff_scan] at h' ⊢
  rw [scan_split_append hr hx, h']

theorem transform_append_break_crlf :
    LineEnding.detect "<!--comments:comment #-->\r\nx\r\n<!--endcomments-->".toList = .crlf ∧
      LineEnding.detect "y\r\n<!--comments:toggle html-->\r\nz".toList = .crlf ∧
      transform {} ("<!--comments:comment #-->\r\nx\r\n<!--endcomments-->".toList ++
          (LineEnding.crlf.text ++ "y\r\n<!--comments:toggle html-->\r\nz".toList)) =
        .ok ⟨"<!--comments:comment #-->\r\n# x\r\n<!--endcomments-->".toList ++
          (LineEnding.crlf.text ++ "y\r\n<!--comments:toggle html-->\r\n<!-- z -->".toList), [⟨.toggle, 5⟩]⟩ := by
  have ha : LineEnding.detect "<!--comments:comment #-->\r\nx\r\n<!--endcomments-->".toList = .crlf := by decide
  have hb : LineEnding.detect "y\r\n<!--comments:toggle html-->\r\nz".toList = .crlf := by decide
  have h := transform_append_break {} (fun _ => ha) (fun _ => hb) (by decide)
  exact ⟨ha, hb, (h.1 ⟨"<!--comments:comment #-->\r\n# x\r\n<!--endcomments-->".toList, []⟩ rfl rfl).1
    ⟨"y\r\n<!--comments:toggle html-->\r\n<!-- z -->".toList, [⟨.toggle, 2⟩]⟩ rfl⟩

end Document
end CommentBlocks
