import CommentBlocks.Proofs.Openers
import CommentBlocks.Proofs.Text.Casing
import Mathlib.Data.Nat.Find

namespace CommentBlocks

open Text

namespace Action

variable {a : Action} {k : Text}

lemma lowercase_eq_name_iff : lowercase k = a.name ↔ k.map Char.toLower = a.name := by
  have hw : a.name.all (fun x => x.toNat < 0x80 ∧ x.toNat ∉ [0, 0x69, 0x6B]) = true := by cases a <;> decide
  exact lowercase_eq_iff fun x hx => of_decide_eq_true (List.all_eq_true.mp hw x hx)

lemma ofKeyword?_eq_some_iff : ofKeyword? k = some a ↔ k.map Char.toLower = a.name := by
  rw [ofKeyword?, ← lowercase_eq_name_iff]
  constructor
  · intro h
    have hn := List.find?_some h
    exact (of_decide_eq_true hn).symm
  · intro h
    rw [h]
    cases a <;> rfl

lemma ofKeyword?_eq_none_iff : ofKeyword? k = none ↔ ∀ a : Action, k.map Char.toLower ≠ a.name := by
  simp only [Option.eq_none_iff_forall_ne_some, ne_eq, ofKeyword?_eq_some_iff]

end Action

lemma Directive.read_eq_error_iff {n : Nat} {line : Text} {e : InvalidCommand} :
    read n line = .error e ↔
      ∃ m, mark? line = some m ∧ (∀ a : Action, m.keyword.map Char.toLower ≠ a.name) ∧
        e = ⟨lowercase m.keyword, n⟩ := by
  rw [read]
  cases mark? line with
  | none => simp only [reduceCtorEq, false_and, exists_false]
  | some m =>
    simp only [Option.some.injEq, exists_eq_left', ← Action.ofKeyword?_eq_none_iff]
    cases Action.ofKeyword? m.keyword with
    | some a => simp only [reduceCtorEq, false_and]
    | none => simp only [Except.error.injEq, true_and, eq_comm]

namespace Document

variable {o : Options} {content line : Text} {lines : List Text} {block : Option Block} {b : Block}
  {d d' : Directive} {e : InvalidCommand} {n i j : Nat} {k : Text}

def Role.refusal? : Role → Option InvalidCommand
  | rejected e => some e
  | _ => none

lemma Role.refusal?_eq_some_iff {r : Role} : r.refusal? = some e ↔ r = .rejected e := by
  cases r <;> simp [refusal?]

lemma role_eq_rejected_iff :
    role n block line = .rejected e ↔ block = none ∧ Directive.read n line = .error e := by
  cases block with
  | some b =>
    rw [role]
    cases Directive.isEnd line <;> simp
  | none =>
    simp only [role, true_and]
    split <;> simp_all

lemma step_eq_error_iff : step o n block line = .error e ↔ role n block line = .rejected e := by
  rw [step_eq]
  cases role n block line <;> simp

lemma scan_eq_error_iff :
    scan o n block lines = .error e ↔ (roles n block lines).findSome? (fun x => x.2.refusal?) = some e := by
  induction lines generalizing n block with
  | nil => simp only [scan, roles, List.findSome?_nil, reduceCtorEq]
  | cons line lines ih =>
    rw [scan, roles, List.findSome?_cons]
    cases hs : step o n block line with
    | error e' =>
      rw [Role.refusal?_eq_some_iff.mpr (step_eq_error_iff.mp hs), Except.error.injEq, Option.some.injEq]
    | ok x =>
      obtain ⟨hr, _, hn⟩ := step_eq_ok_iff.mp hs
      have hnone : (role n block line).refusal? = none :=
        Option.eq_none_iff_forall_ne_some.mpr fun e' he' => hr e' (Role.refusal?_eq_some_iff.mp he')
      simp only [hnone, hn, ← ih]
      cases scan o (n + 1) (role n block line).leaves lines <;> simp only [reduceCtorEq]

lemma transform_eq_error_iff :
    transform o content = .error e ↔ (lineRoles content).findSome? (fun x => x.2.refusal?) = some e := by
  rw [transform_eq_error_iff_scan, scan_eq_error_iff, lineRoles]

def Refuses (lines : List Text) (i : Nat) (k : Text) : Prop :=
  ¬ OpenBefore lines i ∧ (∀ a : Action, k.map Char.toLower ≠ a.name) ∧
    ∃ line m, lines[i]? = some line ∧ Directive.mark? line = some m ∧ m.keyword = k

lemma blockBefore_eq_none_iff (hi : i ≤ lines.length) : blockBefore lines i = none ↔ ¬ OpenBefore lines i := by
  have ht := tracks_blockBefore hi
  cases hb : blockBefore lines i with
  | none =>
    rw [hb] at ht
    exact iff_of_true rfl ht
  | some b =>
    rw [hb] at ht
    exact iff_of_false (Option.some_ne_none b) (not_not_intro ht.openBefore)

lemma rejected_iff (hl : lines[i]? = some line) :
    role (i + 1) (blockBefore lines i) line = .rejected e ↔ ∃ k, Refuses lines i k ∧ e = ⟨lowercase k, i + 1⟩ := by
  obtain ⟨hi, _⟩ := List.getElem?_eq_some_iff.mp hl
  rw [role_eq_rejected_iff, blockBefore_eq_none_iff hi.le, Directive.read_eq_error_iff]
  constructor
  · rintro ⟨ho, m, hm, hk, rfl⟩
    exact ⟨m.keyword, ⟨ho, hk, line, m, hl, hm, rfl⟩, rfl⟩
  · rintro ⟨_, ⟨ho, hk, line', m, hl', hm, rfl⟩, rfl⟩
    obtain rfl := Option.some.inj (hl.symm.trans hl')
    exact ⟨ho, m, hm, hk, rfl⟩

lemma getElem?_refusal_iff :
    ((lineRoles content)[i]?.bind fun x => x.2.refusal?) = some e ↔
      ∃ k, Refuses (Lines.split content) i k ∧ e = ⟨lowercase k, i + 1⟩ := by
  rw [getElem?_lineRoles]
  cases hl : (Lines.split content)[i]? with
  | none =>
    simp only [Option.map_none, Option.bind_none, reduceCtorEq, false_iff, not_exists, not_and]
    rintro k ⟨_, _, line, m, hl', _⟩
    rw [hl] at hl'
    cases hl'
  | some line => rw [Option.map_some, Option.bind_some, Role.refusal?_eq_some_iff, rejected_iff hl]

lemma findSome?_eq_some_iff_getElem? {α β : Type} {l : List α} {f : α → Option β} {x : β} :
    l.findSome? f = some x ↔ ∃ i : Nat, l[i]?.bind f = some x ∧ ∀ j < i, l[j]?.bind f = none := by
  induction l with
  | nil => simp
  | cons a l ih =>
    rw [List.findSome?_cons]
    cases ha : f a with
    | some y =>
      constructor
      · intro h
        exact ⟨0, ha.trans h, fun j hj => absurd hj (Nat.not_lt_zero j)⟩
      · rintro ⟨i, hi, hj⟩
        cases i with
        | zero => exact ha.symm.trans hi
        | succ i => cases ha.symm.trans (hj 0 (Nat.succ_pos i))
    | none =>
      rw [ih]
      constructor
      · rintro ⟨i, hi, hj⟩
        refine ⟨i + 1, hi, fun j hlt => ?_⟩
        cases j with
        | zero => exact ha
        | succ j => exact hj j (Nat.lt_of_succ_lt_succ hlt)
      · rintro ⟨i, hi, hj⟩
        cases i with
        | zero => cases ha.symm.trans hi
        | succ i => exact ⟨i, hi, fun j hlt => hj (j + 1) (Nat.succ_lt_succ hlt)⟩

def FirstRefusal (lines : List Text) (i : Nat) (k : Text) : Prop :=
  Refuses lines i k ∧ ∀ j < i, ∀ k', ¬ Refuses lines j k'

lemma exists_firstRefusal (h : ∃ i k, Refuses lines i k) : ∃ i k, FirstRefusal lines i k := by
  classical
  obtain ⟨k, hk⟩ := Nat.find_spec h
  exact ⟨Nat.find h, k, hk, fun j hj k' hr => Nat.find_min h hj ⟨k', hr⟩⟩

lemma transform_eq_error_iff_firstRefusal :
    transform o content = .error e ↔ ∃ i k, FirstRefusal (Lines.split content) i k ∧ e = ⟨lowercase k, i + 1⟩ := by
  rw [transform_eq_error_iff, findSome?_eq_some_iff_getElem?]
  simp only [Option.eq_none_iff_forall_ne_some, ne_eq, getElem?_refusal_iff]
  constructor
  · rintro ⟨i, ⟨k, hk, rfl⟩, hj⟩
    exact ⟨i, k, ⟨hk, fun j hlt k' hk' => hj j hlt _ ⟨k', hk', rfl⟩⟩, rfl⟩
  · rintro ⟨i, k, ⟨hk, hj⟩, rfl⟩
    refine ⟨i, ⟨k, hk, rfl⟩, ?_⟩
    rintro j hlt _ ⟨k', hk', _⟩
    exact hj j hlt k' hk'

def LeftOpen (lines : List Text) (i : Nat) (d : Directive) : Prop :=
  Opens lines i d ∧ ∀ k, i < k → ¬ Ends lines k

lemma leftOpen_iff_lastOpener : LeftOpen lines i d ↔
    LastOpener lines lines.length i d ∧ Unbroken lines i lines.length := by
  have hlen : ∀ {k}, Ends lines k → k < lines.length := by
    rintro k ⟨line, hl, _⟩
    exact (List.getElem?_eq_some_iff.mp hl).1
  constructor
  · rintro ⟨ho, he⟩
    have hu : Unbroken lines i lines.length := fun k hk _ => he k hk
    obtain ⟨line, hl, _⟩ := ho.2
    exact ⟨lastOpener_of_unbroken (List.getElem?_eq_some_iff.mp hl).1 ho hu, hu⟩
  · rintro ⟨⟨_, ho, _⟩, hu⟩
    exact ⟨ho, fun k hk he => hu k hk (hlen he) he⟩

lemma unclosed_eq_some_iff :
    unclosed content = some b ↔ ∃ i d, LeftOpen (Lines.split content) i d ∧ b = Block.ofDirective (i + 1) d := by
  have hlast : unclosed content = blockBefore (Lines.split content) (Lines.split content).length := by
    rw [unclosed, lineRoles, blockBefore, ← length_roles 1 none (Lines.split content), List.take_length]
  have ht := tracks_blockBefore (le_refl (Lines.split content).length)
  rw [← hlast] at ht
  simp only [leftOpen_iff_lastOpener]
  constructor
  · intro h
    rw [h] at ht
    obtain ⟨i, d, hi, ho, hu, rfl⟩ := ht
    exact ⟨i, d, ⟨lastOpener_of_unbroken hi ho hu, hu⟩, rfl⟩
  · rintro ⟨i, d, ⟨hl, hu⟩, rfl⟩
    cases hb : unclosed content with
    | none =>
      rw [hb] at ht
      exact absurd (openBefore_iff.mpr ⟨i, d, hl.1, hl.2.1, hu⟩) ht
    | some b =>
      rw [hb] at ht
      obtain ⟨j, d', hj, ho, hu', rfl⟩ := ht
      obtain ⟨rfl, rfl⟩ := hl.unique (lastOpener_of_unbroken hj ho hu')
      rfl

/-- A document is refused for the first refusal in it, and accepted with a warning iff a block is left open. -/
theorem transform_verdict (o : Options) (content : Text) :
    ((∃ e, transform o content = .error e) ↔ ∃ i k, Refuses (Lines.split content) i k) ∧
      (∀ e, transform o content = .error e ↔
        ∃ i k, FirstRefusal (Lines.split content) i k ∧ e = ⟨lowercase k, i + 1⟩) ∧
      ∀ out, transform o content = .ok out → out.warnings.length ≤ 1 ∧
        ∀ a n, out.warnings = [⟨a, n⟩] ↔ ∃ i d, LeftOpen (Lines.split content) i d ∧ a = d.action ∧ n = i + 1 := by
  refine ⟨⟨?_, fun h => ?_⟩, fun e => transform_eq_error_iff_firstRefusal, fun out h => ?_⟩
  · rintro ⟨e, he⟩
    obtain ⟨i, k, hk, _⟩ := transform_eq_error_iff_firstRefusal.mp he
    exact ⟨i, k, hk.1⟩
  · obtain ⟨i, k, hk⟩ := exists_firstRefusal h
    exact ⟨_, transform_eq_error_iff_firstRefusal.mpr ⟨i, k, hk, rfl⟩⟩
  · obtain ⟨_, rfl⟩ := transform_eq_ok_iff.mp h
    refine ⟨Option.length_toList_le, fun a n => ?_⟩
    rw [Option.toList_eq_singleton_iff, Option.map_eq_some_iff]
    simp only [unclosed_eq_some_iff]
    constructor
    · rintro ⟨_, ⟨i, d, hl, rfl⟩, hw⟩
      obtain ⟨rfl, rfl⟩ := Warning.mk.inj hw
      exact ⟨i, d, hl, rfl, rfl⟩
    · rintro ⟨i, d, hl, rfl, rfl⟩
      exact ⟨_, ⟨i, d, hl, rfl⟩, rfl⟩

theorem transform_verdict_left_open :
    transform {} "<!--comments:toggle #-->\n<!--comments:x y-->".toList =
        .ok ⟨"<!--comments:toggle #-->\n# <!--comments:x y-->".toList, [⟨.toggle, 1⟩]⟩ ∧
      ∃ i d, LeftOpen ["<!--comments:toggle #-->".toList, "<!--comments:x y-->".toList] i d ∧
        Action.toggle = d.action ∧ 1 = i + 1 := by
  have h : transform {} "<!--comments:toggle #-->\n<!--comments:x y-->".toList =
      .ok ⟨"<!--comments:toggle #-->\n# <!--comments:x y-->".toList, [⟨.toggle, 1⟩]⟩ := rfl
  have hwarned := (transform_verdict {} "<!--comments:toggle #-->\n<!--comments:x y-->".toList).2.2 _ h
  exact ⟨h, (hwarned.2 .toggle 1).mp rfl⟩

end Document
end CommentBlocks
