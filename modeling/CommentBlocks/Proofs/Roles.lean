import CommentBlocks.Document
import CommentBlocks.Proofs.Directives
import CommentBlocks.Proofs.LineBreaks

/-! The role that each line of a document has. The roles do not depend on the options, and they decide
everything that a scan does: the document is refused iff some role is a refusal, and otherwise each line is
rewritten as its role says. -/

namespace CommentBlocks.Document

inductive Role where
  | outside
  | rejected (e : InvalidCommand)
  | opener (b : Block)
  | inside (b : Block)
  | closer (b : Block)
  deriving DecidableEq, Repr

def role (n : Nat) (block : Option Block) (line : Text) : Role :=
  match block with
  | some b => if Directive.isEnd line then .closer b else .inside b
  | none =>
    match Directive.read n line with
    | .error e => .rejected e
    | .ok none => .outside
    | .ok (some d) => .opener (Block.ofDirective n d)

namespace Role

def leaves : Role → Option Block
  | opener b => some b
  | inside b => some b
  | _ => none

def rewrite (o : Options) (line : Text) : Role → Text
  | opener _ => directiveLine o line
  | closer _ => directiveLine o line
  | inside b => b.apply o line
  | _ => line

end Role

def roles : (n : Nat) → Option Block → List Text → List (Text × Role)
  | _, _, [] => []
  | n, block, line :: lines =>
    (line, role n block line) :: roles (n + 1) (role n block line).leaves lines

def lastBlock : Option Block → List (Text × Role) → Option Block
  | block, [] => block
  | _, x :: xs => lastBlock x.2.leaves xs

variable {o : Options} {n : Nat} {block last : Option Block} {b : Block} {line : Text} {lines lines' : List Text}

lemma role_eq_inside_iff : role n block line = .inside b ↔ block = some b ∧ Directive.isEnd line = false := by
  cases block with
  | some b' =>
    rw [role]
    cases Directive.isEnd line <;> simp
  | none =>
    simp only [role, reduceCtorEq, false_and, iff_false]
    split <;> simp

lemma role_eq_opener_iff :
    role n block line = .opener b ↔
      block = none ∧ ∃ d, Directive.read n line = .ok (some d) ∧ b = Block.ofDirective n d := by
  cases block with
  | some b' =>
    rw [role]
    cases Directive.isEnd line <;> simp
  | none =>
    simp only [role, true_and]
    split
    · next he => simp [he]
    · next hd => simp [hd]
    · next d hd => simp [hd, eq_comm]

lemma Role.leaves_eq_some_iff {r : Role} : r.leaves = some b ↔ r = .opener b ∨ r = .inside b := by
  cases r <;> simp [leaves]

lemma step_eq (o : Options) (n : Nat) (block : Option Block) (line : Text) :
    step o n block line =
      match role n block line with
      | .rejected e => .error e
      | r => .ok (r.rewrite o line, r.leaves) := by
  cases block with
  | some b =>
    rw [step, role]
    split <;> rfl
  | none =>
    rw [step, role]
    cases Directive.read n line with
    | error e => rfl
    | ok x => cases x <;> rfl

lemma step_eq_ok_iff {line' : Text} {next : Option Block} :
    step o n block line = .ok (line', next) ↔
      (∀ e, role n block line ≠ .rejected e) ∧ line' = (role n block line).rewrite o line ∧
        next = (role n block line).leaves := by
  rw [step_eq]
  cases role n block line with
  | rejected e => simp
  | _ => simp [eq_comm]

lemma scan_cons_eq_ok_iff :
    scan o n block (line :: lines) = .ok (lines', last) ↔
      ∃ line' next rest, step o n block line = .ok (line', next) ∧
        scan o (n + 1) next lines = .ok (rest, last) ∧ lines' = line' :: rest := by
  rw [scan]
  constructor
  · intro h
    split at h
    · cases h
    · next line' next hs =>
      split at h
      · cases h
      · next rest final hr =>
        obtain ⟨rfl, rfl⟩ := Prod.mk.inj (Except.ok.inj h)
        exact ⟨line', next, rest, hs, hr, rfl⟩
  · rintro ⟨line', next, rest, hs, hr, rfl⟩
    simp only [hs, hr]

lemma transform_eq_ok_iff_scan {content : Text} {out : Outcome} :
    transform o content = .ok out ↔
      ∃ lines last, scan o 1 none (Lines.split content) = .ok (lines, last) ∧
        out = ⟨Lines.join (LineEnding.detect content) lines, (last.map Block.warning).toList⟩ := by
  rw [transform]
  cases scan o 1 none (Lines.split content) with
  | error e => simp only [reduceCtorEq, false_and, exists_false]
  | ok x =>
    constructor
    · intro h
      exact ⟨x.1, x.2, rfl, (Except.ok.inj h).symm⟩
    · rintro ⟨lines, last, hs, rfl⟩
      obtain rfl := Except.ok.inj hs
      rfl

lemma transform_eq_error_iff_scan {content : Text} {e : InvalidCommand} :
    transform o content = .error e ↔ scan o 1 none (Lines.split content) = .error e := by
  rw [transform]
  cases scan o 1 none (Lines.split content) with
  | error e' => simp only [Except.error.injEq]
  | ok x => simp only [reduceCtorEq]

lemma scan_eq_ok_iff :
    scan o n block lines = .ok (lines', last) ↔
      (∀ x ∈ roles n block lines, ∀ e, x.2 ≠ .rejected e) ∧
        lines' = (roles n block lines).map (fun x => x.2.rewrite o x.1) ∧
        last = lastBlock block (roles n block lines) := by
  induction lines generalizing n block lines' with
  | nil =>
    simp only [scan, roles, lastBlock, Except.ok.injEq, Prod.mk.injEq, List.not_mem_nil, List.map_nil,
      false_implies, implies_true, true_and, eq_comm]
  | cons line lines ih =>
    rw [scan_cons_eq_ok_iff, roles, List.forall_mem_cons, List.map_cons, lastBlock]
    simp only [step_eq_ok_iff, ih]
    constructor
    · rintro ⟨_, _, _, ⟨hr, rfl, rfl⟩, ⟨hrs, rfl, hl⟩, rfl⟩
      exact ⟨⟨hr, hrs⟩, rfl, hl⟩
    · rintro ⟨⟨hr, hrs⟩, rfl, hl⟩
      exact ⟨_, _, _, ⟨hr, rfl, rfl⟩, ⟨hrs, rfl, hl⟩, rfl⟩

lemma map_fst_roles (n : Nat) (block : Option Block) (lines : List Text) :
    (roles n block lines).map Prod.fst = lines := by
  induction lines generalizing n block with
  | nil => rfl
  | cons line lines ih => rw [roles, List.map_cons, ih]

lemma length_roles (n : Nat) (block : Option Block) (lines : List Text) :
    (roles n block lines).length = lines.length := by
  rw [← List.length_map (f := Prod.fst), map_fst_roles]

lemma length_of_scan (h : scan o n block lines = .ok (lines', last)) : lines'.length = lines.length := by
  obtain ⟨_, rfl, _⟩ := scan_eq_ok_iff.mp h
  rw [List.length_map, length_roles]

lemma mem_lines_of_mem_roles {r : Role} (h : (line, r) ∈ roles n block lines) : line ∈ lines := by
  rw [← map_fst_roles n block lines]
  exact List.mem_map_of_mem h

lemma opener_mem_of_inside_mem (h : (line, .inside b) ∈ roles n block lines) :
    block = some b ∨ ∃ l, (l, .opener b) ∈ roles n block lines := by
  induction lines generalizing n block with
  | nil => cases h
  | cons l lines ih =>
    rw [roles, List.mem_cons] at h
    rcases h with h | h
    · exact Or.inl (role_eq_inside_iff.mp (Prod.mk.inj h).2.symm).1
    · rcases ih h with hl | ⟨l', hl'⟩
      · rcases Role.leaves_eq_some_iff.mp hl with ho | hi
        · exact Or.inr ⟨l, by rw [roles, ho]; exact List.mem_cons_self⟩
        · exact Or.inl (role_eq_inside_iff.mp hi).1
      · exact Or.inr ⟨l', List.mem_cons_of_mem _ hl'⟩

lemma exists_role_of_mem_roles {r : Role} (h : (line, r) ∈ roles n block lines) :
    ∃ m before, role m before line = r := by
  induction lines generalizing n block with
  | nil => cases h
  | cons l lines ih =>
    rw [roles, List.mem_cons] at h
    rcases h with h | h
    · obtain ⟨rfl, rfl⟩ := Prod.mk.inj h
      exact ⟨n, block, rfl⟩
    · exact ih h

lemma isEnd_of_inside_mem (h : (line, .inside b) ∈ roles n block lines) : Directive.isEnd line = false := by
  obtain ⟨m, before, hr⟩ := exists_role_of_mem_roles h
  exact (role_eq_inside_iff.mp hr).2

lemma exists_spec_of_opener_mem (h : (line, .opener b) ∈ roles n block lines) :
    ∃ spec, spec ≠ [] ∧ Text.Solid spec ∧ b.delimiters = Delimiters.ofSpec spec := by
  obtain ⟨m, before, hr⟩ := exists_role_of_mem_roles h
  obtain ⟨_, d, hd, rfl⟩ := role_eq_opener_iff.mp hr
  exact Directive.exists_spec_of_read hd

def lineRoles (content : Text) : List (Text × Role) := roles 1 none (Lines.split content)

def blocks (content : Text) : List Block :=
  (lineRoles content).filterMap fun x =>
    match x.2 with
    | .opener b => some b
    | _ => none

def blockLines (content : Text) : List (Block × Text) :=
  (lineRoles content).filterMap fun x =>
    match x.2 with
    | .inside b => some (b, x.1)
    | _ => none

def unclosed (content : Text) : Option Block := lastBlock none (lineRoles content)

variable {content : Text}

lemma mem_blocks : b ∈ blocks content ↔ ∃ l, (l, .opener b) ∈ lineRoles content := by
  rw [blocks, List.mem_filterMap]
  constructor
  · rintro ⟨⟨l, r⟩, hx, hr⟩
    cases r <;> cases hr
    exact ⟨l, hx⟩
  · rintro ⟨l, hl⟩
    exact ⟨_, hl, rfl⟩

lemma mem_blockLines : (b, line) ∈ blockLines content ↔ (line, .inside b) ∈ lineRoles content := by
  rw [blockLines, List.mem_filterMap]
  constructor
  · rintro ⟨⟨l, r⟩, hx, hr⟩
    cases r <;> cases hr
    exact hx
  · intro h
    exact ⟨_, h, rfl⟩

lemma mem_blocks_of_mem_blockLines (h : (b, line) ∈ blockLines content) : b ∈ blocks content := by
  rcases opener_mem_of_inside_mem (mem_blockLines.mp h) with hn | hl
  · cases hn
  · exact mem_blocks.mpr hl

lemma exists_spec_of_mem_blocks (h : b ∈ blocks content) :
    ∃ spec, spec ≠ [] ∧ Text.Solid spec ∧ b.delimiters = Delimiters.ofSpec spec := by
  obtain ⟨l, hl⟩ := mem_blocks.mp h
  exact exists_spec_of_opener_mem hl

lemma mem_split_of_mem_blockLines (h : (b, line) ∈ blockLines content) : line ∈ Lines.split content :=
  mem_lines_of_mem_roles (mem_blockLines.mp h)

lemma transform_eq_ok_iff {out : Outcome} :
    transform o content = .ok out ↔
      (∀ x ∈ lineRoles content, ∀ e, x.2 ≠ .rejected e) ∧
        out = ⟨Lines.join (LineEnding.detect content) ((lineRoles content).map fun x => x.2.rewrite o x.1),
          ((unclosed content).map Block.warning).toList⟩ := by
  rw [transform_eq_ok_iff_scan]
  simp only [scan_eq_ok_iff]
  constructor
  · rintro ⟨_, _, ⟨hr, rfl, rfl⟩, rfl⟩
    exact ⟨hr, rfl⟩
  · rintro ⟨hr, rfl⟩
    exact ⟨_, _, ⟨hr, rfl, rfl⟩, rfl⟩

lemma solid_of_mem_blocks (h : b ∈ blocks content) : b.delimiters.Solid := by
  obtain ⟨spec, hne, hs, hd⟩ := exists_spec_of_mem_blocks h
  rw [hd]
  exact Delimiters.solid_ofSpec hne hs

lemma closing_of_mem_blocks (h : b ∈ blocks content) (ho : '<' ∉ b.delimiters.opening) :
    '>' ∉ b.delimiters.closing := by
  obtain ⟨spec, _, _, hd⟩ := exists_spec_of_mem_blocks h
  rw [hd] at ho ⊢
  exact Directive.not_mem_closing_of_not_mem_opening ho

lemma solid_of_inside_mem {x : Text × Role} (hx : x ∈ lineRoles content) (b : Block) (hr : x.2 = .inside b) :
    b.delimiters.Solid := by
  obtain ⟨line, r⟩ := x
  subst hr
  exact solid_of_mem_blocks (mem_blocks_of_mem_blockLines (mem_blockLines.mpr hx))

lemma not_mem_rewrite {c : Char} {r : Role} (hd : ∀ b, r = .inside b → b.delimiters.Solid)
    (hb : Text.isBlank c = true) (hs : c ≠ ' ') (hc : c ∉ line) : c ∉ r.rewrite o line := by
  have hl : c ∉ directiveLine o line := by
    rw [directiveLine]
    split
    · exact List.not_mem_nil
    · exact hc
  cases r with
  | inside b => exact Action.not_mem_apply (hd b rfl) hb hs hc
  | opener b => exact hl
  | closer b => exact hl
  | outside => exact hc
  | rejected e => exact hc

lemma newline_not_mem_rewrite (o : Options) (content : Text) :
    ∀ l ∈ (lineRoles content).map fun x => x.2.rewrite o x.1, '\n' ∉ l := by
  intro l hl
  obtain ⟨x, hx, rfl⟩ := List.mem_map.mp hl
  exact not_mem_rewrite (solid_of_inside_mem hx) (by decide) (by decide)
    (Lines.newline_not_mem_of_mem_split (mem_lines_of_mem_roles hx))

lemma map_lineRoles_ne_nil (f : Text × Role → Text) (content : Text) : (lineRoles content).map f ≠ [] := by
  rw [ne_eq, List.map_eq_nil_iff, ← List.length_eq_zero_iff, lineRoles, length_roles, List.length_eq_zero_iff]
  exact Lines.split_ne_nil content

end CommentBlocks.Document
