import CommentBlocks.Settings.Decode
import CommentBlocks.Proofs.Results
import Mathlib.Data.List.Nodup
import Mathlib.Data.List.Pairwise

/-! Records read from tables, one entry after the other. A record is a list of fields, and reading an entry is
the same for all records: the field of that name says what the value does to the record, and an entry without
a field is a fault. Entries that belong to different fields may change places. -/

namespace CommentBlocks

variable {ε α β : Type}

lemma toOption_eq_some_iff {x : Except ε α} {a : α} : x.toOption = some a ↔ x = .ok a := by
  cases x <;> simp [Except.toOption]

lemma toOption_bind (x : Except ε α) (f : α → Except ε β) :
    (x >>= f).toOption = x.toOption.bind fun a => (f a).toOption := by
  cases x <;> rfl

lemma toOption_map (x : Except ε α) (f : α → β) : (x.map f).toOption = x.toOption.map f := by
  cases x <;> rfl

lemma toOption_mapError {ε' : Type} (x : Except ε α) (f : ε → ε') : (x.mapError f).toOption = x.toOption := by
  cases x <;> rfl

namespace Settings

open Toml

variable {α β γ : Type}

structure Field (β : Type) where
  name : String
  /-- What a value under this name does to the record. -/
  read : Value → Decoded (β → β)

variable {fields : List (Field β)}

def Field.set (name : String) (decode : Value → Decoded α) (put : α → β → β) : Field β :=
  ⟨name, fun v => (decode v).map put⟩

def entry (known : List String) : List (Field β) → β → Text × Value → Decoded β
  | [], _, e => .error (.unknownField e.1 known)
  | r :: rs, b, e => if e.1 = r.name.toList then do return (← r.read e.2) b else entry known rs b e

def overlayRecord : List (Field Overlay) :=
  [.set "remove_directive_lines" decodeTruth fun b o => { o with removeDirectiveLines := some b },
   .set "padding" decodeNumber fun n o => { o with padding := some n }]

def targetRecord : List (Field TargetDraft) :=
  [.set "cwd" decodePath fun p t => { t with base := some p },
   .set "files" decodeTexts fun ps t => { t with patterns := some ps },
   .set "dest" decodePath fun p t => { t with destination := some p },
   .set "options" decodeOverlay fun o t => { t with options := o }]

def settingsRecord : List (Field Settings) :=
  [.set "options" decodeOverlay fun o s => { s with options := o },
   .set "targets" decodeTargets fun ts s => { s with targets := ts }]

lemma read_set (name : String) (decode : Value → Decoded α) (put : α → β → β) (v : Value) (b : β) :
    (do return (← (Field.set name decode put).read v) b) = (do return put (← decode v) b) := by
  simp only [Field.set]
  cases decode v <;> rfl

lemma overlayEntry_eq : overlayEntry = entry overlayFields overlayRecord := by
  funext o e
  simp only [overlayEntry, entry, overlayRecord, read_set]
  rfl

lemma targetEntry_eq : targetEntry = entry targetFields targetRecord := by
  funext t e
  simp only [targetEntry, entry, targetRecord, read_set]
  rfl

lemma settingsEntry_eq : settingsEntry = entry settingsFields settingsRecord := by
  funext s e
  simp only [settingsEntry, entry, settingsRecord, read_set]
  rfl

lemma entry_cases (known : List String) (fields : List (Field β)) (k : Text) :
    (∃ r ∈ fields, k = r.name.toList ∧ ∀ b v, entry known fields b (k, v) = do return (← r.read v) b) ∨
      (k ∉ fields.map fun r => r.name.toList) ∧
        ∀ b v, entry known fields b (k, v) = .error (.unknownField k known) := by
  induction fields with
  | nil => exact Or.inr ⟨List.not_mem_nil, fun b v => rfl⟩
  | cons r rs ih =>
    by_cases hk : k = r.name.toList
    · exact Or.inl ⟨r, List.mem_cons_self, hk, fun b v => by rw [entry, if_pos hk]⟩
    · have hrest : ∀ b v, entry known (r :: rs) b (k, v) = entry known rs b (k, v) := fun b v => by
        rw [entry, if_neg hk]
      simp only [hrest]
      rcases ih with ⟨r', hr', hk', h⟩ | ⟨hk', h⟩
      · exact Or.inl ⟨r', List.mem_cons_of_mem r hr', hk', h⟩
      · exact Or.inr ⟨List.not_mem_cons_of_ne_of_not_mem hk hk', h⟩

lemma entry_eq_error {known : List String} {k : Text} (hk : k ∉ fields.map fun r => r.name.toList) (b : β)
    (v : Value) : entry known fields b (k, v) = .error (.unknownField k known) := by
  rcases entry_cases known fields k with ⟨r, hr, rfl, -⟩ | ⟨-, herror⟩
  · exact absurd (List.mem_map_of_mem hr) hk
  · exact herror b v

def Independent (r r' : Field β) : Prop :=
  ∀ v v' g g', r.read v = .ok g → r'.read v' = .ok g' → ∀ b, g (g' b) = g' (g b)

instance : Std.Symm (Independent (β := β)) := ⟨fun _ _ h v v' g g' hg hg' b => (h v' v g' g hg' hg b).symm⟩

lemma independent_set {name name' : String} {decode : Value → Decoded α} {decode' : Value → Decoded γ}
    {put : α → β → β} {put' : γ → β → β} (h : ∀ a c b, put a (put' c b) = put' c (put a b)) :
    Independent (.set name decode put) (.set name' decode' put') := by
  intro v v' g g' hg hg' b
  obtain ⟨a, -, rfl⟩ := map_eq_ok_iff.mp hg
  obtain ⟨c, -, rfl⟩ := map_eq_ok_iff.mp hg'
  exact h a c b

lemma pairwise_overlayRecord : overlayRecord.Pairwise Independent :=
  List.pairwise_pair.mpr (independent_set fun _ _ _ => rfl)

lemma pairwise_settingsRecord : settingsRecord.Pairwise Independent :=
  List.pairwise_pair.mpr (independent_set fun _ _ _ => rfl)

lemma pairwise_targetRecord : targetRecord.Pairwise Independent := by
  simp only [targetRecord, List.pairwise_cons, List.forall_mem_cons, List.not_mem_nil, false_imp_iff, implies_true,
    List.Pairwise.nil, and_true]
  refine ⟨⟨?_, ?_, ?_⟩, ⟨?_, ?_⟩, ?_⟩
  all_goals exact independent_set fun _ _ _ => rfl

/-- The steps come to the same in either order, or neither order succeeds. -/
def Commute (p q : β → Decoded β) : Prop := ∀ b, (p b >>= q).toOption = (q b >>= p).toOption

lemma commute_entry {known : List String} {k k' : Text} (hi : fields.Pairwise Independent) (hk : k ≠ k')
    (v v' : Value) : Commute (entry known fields · (k, v)) (entry known fields · (k', v')) := by
  intro b
  rcases entry_cases known fields k with ⟨r, hr, rfl, hread⟩ | ⟨-, herror⟩
  · rcases entry_cases known fields k' with ⟨r', hr', rfl, hread'⟩ | ⟨-, herror'⟩
    · have hne : r ≠ r' := by
        rintro rfl
        exact hk rfl
      have hind : Independent r r' := hi.forall hr hr' hne
      simp only [hread, hread']
      cases hg : r.read v with
      | error e => cases r'.read v' <;> rfl
      | ok g =>
        cases hg' : r'.read v' with
        | error e => rfl
        | ok g' => exact congrArg some (hind v v' g g' hg hg' b).symm
    · simp only [hread, herror']
      cases r.read v <;> rfl
  · simp only [herror]
    cases entry known fields b (k', v') <;> rfl

section Folds

variable {f : β → α → Decoded β} {as bs es fs : List α} {e e' : α} {b c : β} {x : Fault}

lemma bind_toOption_foldlM (f : β → α → Decoded β) (es : List α) (o : Option β) :
    (o.bind fun b => (es.foldlM f b).toOption) = es.foldl (fun o e => o.bind fun b => (f b e).toOption) o := by
  induction es generalizing o with
  | nil => cases o <;> rfl
  | cons e es ih =>
    rw [List.foldl_cons, ← ih, Option.bind_assoc]
    simp only [List.foldlM_cons, toOption_bind]

lemma toOption_foldlM (f : β → α → Decoded β) (es : List α) (b : β) :
    (es.foldlM f b).toOption = es.foldl (fun o e => o.bind fun b => (f b e).toOption) (some b) :=
  bind_toOption_foldlM f es (some b)

lemma toOption_foldlM_perm {key : α → Text}
    (hc : ∀ e ∈ es, ∀ e' ∈ es, key e ≠ key e' → Commute (f · e) (f · e')) (hn : (es.map key).Nodup)
    (hp : es.Perm fs) (b : β) : (es.foldlM f b).toOption = (fs.foldlM f b).toOption := by
  rw [toOption_foldlM, toOption_foldlM]
  refine hp.foldl_eq' (fun e he e' he' o => ?_) (some b)
  by_cases hk : key e = key e'
  · rw [List.inj_on_of_nodup_map hn he he' hk]
  · cases o with
    | none => rfl
    | some c =>
      have h := hc e he e' he' hk c
      rw [toOption_bind, toOption_bind] at h
      exact h

lemma toOption_foldlM_replace (h : ∀ b, (f b e).toOption = (f b e').toOption) (as bs : List α) (b : β) :
    ((as ++ e :: bs).foldlM f b).toOption = ((as ++ e' :: bs).foldlM f b).toOption := by
  simp only [toOption_foldlM, List.foldl_append, List.foldl_cons, h]

lemma foldlM_insert_eq_error (h : (as ++ bs).foldlM f b = .ok c) (he : ∀ b, f b e = .error x) :
    (as ++ e :: bs).foldlM f b = .error x := by
  rw [List.foldlM_append] at h ⊢
  obtain ⟨m, hm, -⟩ := exists_of_bind_eq_ok h
  rw [hm]
  change (e :: bs).foldlM f m = _
  rw [List.foldlM_cons, he]
  rfl

lemma foldlM_replace_eq_error (h : (as ++ e :: bs).foldlM f b = .ok c)
    (he : ∀ b b', f b e = .ok b' → f b e' = .error x) : (as ++ e' :: bs).foldlM f b = .error x := by
  rw [List.foldlM_append] at h ⊢
  obtain ⟨m, hm, h⟩ := exists_of_bind_eq_ok h
  rw [List.foldlM_cons] at h
  obtain ⟨m', hm', -⟩ := exists_of_bind_eq_ok h
  rw [hm]
  change (e' :: bs).foldlM f m = _
  rw [List.foldlM_cons, he m m' hm']
  rfl

end Folds

end Settings
end CommentBlocks
