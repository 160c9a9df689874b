import CommentBlocks.Proofs.Records
import CommentBlocks.Proofs.Text.Order
import CommentBlocks.Proofs.Toml.Keys
import Mathlib.Data.List.Lex
import Mathlib.Data.Char

/-! The order of the keys in a document. Settings come out the same, or not at all, in whatever order the keys
of a table are given, at the top or anywhere inside. This is so because no key is given twice: of two entries
with one key the later one would count. -/

namespace CommentBlocks

namespace Toml.Value

variable {v w : Value}

inductive Reorders : Value → Value → Prop
  | table {es fs : Table} (h : es.Perm fs) : Reorders (.table es) (.table fs)
  | entry (as bs : Table) (k : Text) {v w : Value} (h : Reorders v w) :
      Reorders (.table (as ++ (k, v) :: bs)) (.table (as ++ (k, w) :: bs))
  | item (as bs : List Value) {v w : Value} (h : Reorders v w) :
      Reorders (.array (as ++ v :: bs)) (.array (as ++ w :: bs))

def Reordered : Value → Value → Prop := Relation.ReflTransGen Reorders

lemma Reorders.distinct (h : Reorders v w) (hv : v.Distinct) : w.Distinct := by
  induction h with
  | table hp =>
    obtain ⟨hn, hd⟩ := distinct_table_iff.mp hv
    exact .table ((hp.map Prod.fst).nodup hn) fun e he => hd e (hp.mem_iff.mpr he)
  | entry as bs k h ih =>
    rw [distinct_table_iff, List.forall_mem_append, List.forall_mem_cons] at hv
    obtain ⟨hn, has, hx, hbs⟩ := hv
    rw [distinct_table_iff, List.forall_mem_append, List.forall_mem_cons]
    rw [List.map_append, List.map_cons] at hn ⊢
    exact ⟨hn, has, ih hx, hbs⟩
  | item as bs h ih =>
    rw [distinct_array_iff, List.forall_mem_append, List.forall_mem_cons] at hv ⊢
    exact ⟨hv.1, ih hv.2.1, hv.2.2⟩

end Toml.Value

namespace Settings

open Toml Value

variable {α β γ : Type} {v w : Value} {es : Table} {vs ws : List Value} {f : β → Text × Value → Decoded β}
  {fields : List (Field β)} {g : Value → Decoded α}

def Stable (g : Value → Decoded α) : Prop :=
  ∀ v w, v.Distinct → v.Reorders w → (g v).toOption = (g w).toOption

structure Orderless (f : β → Text × Value → Decoded β) : Prop where
  commute : ∀ k k' v v', k ≠ k' → Commute (f · (k, v)) (f · (k', v'))
  stable : ∀ b k, Stable fun v => f b (k, v)

lemma Orderless.toOption_foldlM_perm {fs : Table} (hf : Orderless f) (hn : (es.map Prod.fst).Nodup)
    (hp : es.Perm fs) (b : β) : (es.foldlM f b).toOption = (fs.foldlM f b).toOption := by
  refine Settings.toOption_foldlM_perm (fun e _ e' _ hk => ?_) hn hp b
  exact hf.commute e.1 e'.1 e.2 e'.2 hk

lemma Orderless.toOption_foldlM (hf : Orderless f) (hd : (Value.table es).Distinct)
    (h : (Value.table es).Reorders w)
    (b : β) : ∃ fs, w = .table fs ∧ (es.foldlM f b).toOption = (fs.foldlM f b).toOption := by
  obtain ⟨hn, hvalues⟩ := distinct_table_iff.mp hd
  cases h with
  | table hp => exact ⟨_, rfl, hf.toOption_foldlM_perm hn hp b⟩
  | entry as bs k h =>
    refine ⟨_, rfl, toOption_foldlM_replace (fun b => hf.stable b k _ _ ?_ h) as bs b⟩
    exact hvalues (k, _) (by simp)

lemma Orderless.foldlM_eq_ok_iff {as bs : Table} {e : Text × Value} {b c : β} (hf : Orderless f)
    (hn : ((as ++ e :: bs).map Prod.fst).Nodup) :
    (as ++ e :: bs).foldlM f b = .ok c ↔ ∃ m, (as ++ bs).foldlM f b = .ok m ∧ f m e = .ok c := by
  have hperm : (as ++ e :: bs).Perm (as ++ bs ++ [e]) :=
    List.perm_middle.trans (List.perm_append_singleton e _).symm
  have hlast : ∀ m, [e].foldlM f m = f m e := fun m => by simp only [List.foldlM_cons, List.foldlM_nil, bind_pure]
  rw [← toOption_eq_some_iff, hf.toOption_foldlM_perm hn hperm, toOption_eq_some_iff, List.foldlM_append]
  simp only [hlast]
  constructor
  · exact exists_of_bind_eq_ok
  · rintro ⟨m, hm, he⟩
    rw [hm]
    exact he

lemma stable_of_eq_none (ht : ∀ es, (g (.table es)).toOption = none)
    (ha : ∀ vs, (g (.array vs)).toOption = none) : Stable g := by
  intro v w _ h
  cases h with
  | table _ => rw [ht, ht]
  | entry as bs k _ => rw [ht, ht]
  | item as bs _ => rw [ha, ha]

lemma stable_decodeTruth : Stable decodeTruth := stable_of_eq_none (fun _ => rfl) fun _ => rfl

lemma stable_decodeNumber : Stable decodeNumber := stable_of_eq_none (fun _ => rfl) fun _ => rfl

lemma stable_decodeText : Stable decodeText := stable_of_eq_none (fun _ => rfl) fun _ => rfl

lemma stable_decodePath : Stable decodePath := stable_of_eq_none (fun _ => rfl) fun _ => rfl

lemma stable_decodeTexts : Stable decodeTexts := by
  intro v w hd h
  cases h with
  | table _ => rfl
  | entry as bs k _ => rfl
  | item as bs h =>
    have hx := stable_decodeText _ _ (distinct_array_iff.mp hd _ (by simp)) h
    simp only [decodeTexts, List.mapM_append, List.mapM_cons, toOption_bind, hx]

lemma stable_set {name : String} {put : α → β → β} (hs : Stable g) : Stable (Field.set name g put).read := by
  intro v w hd h
  simp only [Field.set, toOption_map, hs v w hd h]

lemma orderless_entry {known : List String} (hi : fields.Pairwise Independent) (hs : ∀ r ∈ fields, Stable r.read) :
    Orderless (entry known fields) where
  commute k k' v v' hk := commute_entry hi hk v v'
  stable b k := by
    intro v w hd h
    rcases entry_cases known fields k with ⟨r, hr, -, hread⟩ | ⟨-, herror⟩
    · simp only [hread, toOption_bind, hs r hr v w hd h]
    · simp only [herror]

lemma orderless_overlayEntry : Orderless overlayEntry := by
  rw [overlayEntry_eq]
  refine orderless_entry pairwise_overlayRecord (List.forall_mem_cons.mpr ⟨stable_set stable_decodeTruth, ?_⟩)
  exact List.forall_mem_singleton.mpr (stable_set stable_decodeNumber)

lemma stable_decodeOverlay : Stable decodeOverlay := by
  intro v w hd h
  cases v with
  | table es =>
    obtain ⟨fs, rfl, hfs⟩ := orderless_overlayEntry.toOption_foldlM hd h {}
    exact hfs
  | array vs =>
    cases h with
    | item as bs h =>
      have hx := distinct_array_iff.mp hd _ (List.mem_append_cons_self)
      -- only the first two items of an array are read
      rcases as with _ | ⟨a, _ | ⟨a', as⟩⟩
      · have htruth := stable_decodeTruth _ _ hx h
        cases bs with
        | nil => simp only [List.nil_append, decodeOverlay, toOption_bind, htruth]
        | cons b bs => simp only [List.nil_append, decodeOverlay, toOption_bind, htruth]
      · have hnumber := stable_decodeNumber _ _ hx h
        simp only [List.cons_append, List.nil_append, decodeOverlay, toOption_bind, hnumber]
      · rfl
  | _ => cases h

lemma toOption_decodeFirst_drop (hs : Stable g) {v w : Value} (hd : v.Distinct) (h : v.Reorders w)
    (as bs : List Value) (n : Nat) :
    (decodeFirst g ((as ++ v :: bs).drop n)).toOption = (decodeFirst g ((as ++ w :: bs).drop n)).toOption := by
  induction as generalizing n with
  | nil =>
    cases n with
    | zero => simp only [List.nil_append, List.drop_zero, decodeFirst, toOption_bind, hs v w hd h]
    | succ n => rfl
  | cons a as ih =>
    cases n with
    | zero => rfl
    | succ n => exact ih n

lemma orderless_targetEntry : Orderless targetEntry := by
  rw [targetEntry_eq]
  refine orderless_entry pairwise_targetRecord ?_
  simp only [targetRecord, List.forall_mem_cons, List.not_mem_nil, false_imp_iff, implies_true, and_true]
  exact ⟨stable_set stable_decodePath, stable_set stable_decodeTexts, stable_set stable_decodePath,
    stable_set stable_decodeOverlay⟩

lemma stable_decodeTarget : Stable decodeTarget := by
  intro v w hd h
  cases v with
  | table es =>
    obtain ⟨fs, rfl, hfs⟩ := orderless_targetEntry.toOption_foldlM hd h {}
    simp only [decodeTarget, toOption_bind, hfs]
  | array vs =>
    cases h with
    | item as bs h =>
      have hx := distinct_array_iff.mp hd _ (List.mem_append_cons_self)
      have hbase := toOption_decodeFirst_drop stable_decodePath hx h as bs 0
      have hpatterns := toOption_decodeFirst_drop stable_decodeTexts hx h as bs 1
      have hdestination := toOption_decodeFirst_drop stable_decodePath hx h as bs 2
      have hoptions := toOption_decodeFirst_drop stable_decodeOverlay hx h as bs 3
      rw [List.drop_zero, List.drop_zero] at hbase
      simp only [decodeTarget, toOption_bind, hbase, hpatterns]
      refine Option.bind_congr fun base _ => Option.bind_congr fun patterns _ => ?_
      cases patterns with
      | none => rfl
      | some patterns => simp only [toOption_bind, hdestination, hoptions]
  | _ => cases h

section InsertTarget

variable {m n : Text} {t u : Target} {ts : List (Text × Target)}

lemma insertTarget_cons_self : insertTarget n t ((n, u) :: ts) = (n, t) :: ts := if_pos rfl

lemma insertTarget_cons_of_lt (h : m < n) : insertTarget m t ((n, u) :: ts) = (m, t) :: (n, u) :: ts := by
  rw [insertTarget, if_neg h.ne', if_pos (Text.precedes_iff_lt.mpr h)]

lemma insertTarget_cons_of_gt (h : n < m) : insertTarget m t ((n, u) :: ts) = (n, u) :: insertTarget m t ts := by
  rw [insertTarget, if_neg h.ne, if_neg (mt Text.precedes_iff_lt.mp h.not_gt)]

lemma insertTarget_comm_of_lt (h : m < n) :
    insertTarget m t (insertTarget n u ts) = insertTarget n u (insertTarget m t ts) := by
  induction ts with
  | nil =>
    have hm : insertTarget m t [(n, u)] = [(m, t), (n, u)] := insertTarget_cons_of_lt h
    have hn : insertTarget n u [(m, t)] = [(m, t), (n, u)] := insertTarget_cons_of_gt h
    exact hm.trans hn.symm
  | cons e ts ih =>
    obtain ⟨k, x⟩ := e
    rcases lt_trichotomy n k with hk | rfl | hk
    · rw [insertTarget_cons_of_lt hk, insertTarget_cons_of_lt h, insertTarget_cons_of_lt (h.trans hk),
        insertTarget_cons_of_gt h, insertTarget_cons_of_lt hk]
    · rw [insertTarget_cons_self, insertTarget_cons_of_lt h, insertTarget_cons_of_lt h, insertTarget_cons_of_gt h,
        insertTarget_cons_self]
    · rw [insertTarget_cons_of_gt hk]
      rcases lt_trichotomy m k with hm | rfl | hm
      · rw [insertTarget_cons_of_lt hm, insertTarget_cons_of_lt hm, insertTarget_cons_of_gt h,
          insertTarget_cons_of_gt hk]
      · rw [insertTarget_cons_self, insertTarget_cons_self, insertTarget_cons_of_gt h]
      · rw [insertTarget_cons_of_gt hm, insertTarget_cons_of_gt hm, insertTarget_cons_of_gt hk, ih]

lemma insertTarget_comm (h : m ≠ n) :
    insertTarget m t (insertTarget n u ts) = insertTarget n u (insertTarget m t ts) := by
  rcases lt_or_gt_of_ne h with hlt | hlt
  · exact insertTarget_comm_of_lt hlt
  · exact (insertTarget_comm_of_lt hlt).symm

end InsertTarget

def targetsEntry (ts : List (Text × Target)) (e : Text × Value) : Decoded (List (Text × Target)) := do
  return insertTarget e.1 (← decodeTarget e.2) ts

lemma decodeTargets_table (es : Table) : decodeTargets (.table es) = es.foldlM targetsEntry [] := rfl

lemma orderless_targetsEntry : Orderless targetsEntry where
  commute k k' v v' hk := by
    intro ts
    simp only [targetsEntry]
    cases decodeTarget v with
    | error x => cases decodeTarget v' <;> rfl
    | ok t =>
      cases decodeTarget v' with
      | error x => rfl
      | ok t' => exact congrArg some (insertTarget_comm hk.symm)
  stable ts k := by
    intro v w hd h
    simp only [targetsEntry, toOption_bind, stable_decodeTarget v w hd h]

lemma stable_decodeTargets : Stable decodeTargets := by
  intro v w hd h
  cases v with
  | table es =>
    obtain ⟨fs, rfl, hfs⟩ := orderless_targetsEntry.toOption_foldlM hd h []
    exact hfs
  | array vs =>
    cases h with
    | item as bs _ => rfl
  | _ => cases h

lemma orderless_settingsEntry : Orderless settingsEntry := by
  rw [settingsEntry_eq]
  refine orderless_entry pairwise_settingsRecord (List.forall_mem_cons.mpr ⟨stable_set stable_decodeOverlay, ?_⟩)
  exact List.forall_mem_singleton.mpr (stable_set stable_decodeTargets)

theorem toOption_decode_of_reordered {root : Path} {fs : Table} (hd : (Value.table es).Distinct)
    (h : (Value.table es).Reordered (.table fs)) : (decode root es).toOption = (decode root fs).toOption := by
  -- a table stays a table at each step
  have hsteps : ∀ w, (Value.table es).Reordered w →
      w.Distinct ∧ ∃ gs, w = .table gs ∧ (decode root es).toOption = (decode root gs).toOption := by
    intro w hw
    induction hw with
    | refl => exact ⟨hd, es, rfl, rfl⟩
    | tail _ hstep ih =>
      obtain ⟨hdw, gs, rfl, hgs⟩ := ih
      obtain ⟨gs', rfl, hgs'⟩ := orderless_settingsEntry.toOption_foldlM hdw hstep { root := root }
      exact ⟨hstep.distinct hdw, gs', rfl, hgs.trans hgs'⟩
  obtain ⟨-, gs, hgs, heq⟩ := hsteps _ h
  obtain rfl := Value.table.inj hgs
  exact heq

end Settings
end CommentBlocks
