import CommentBlocks.Toml.Grammar
import CommentBlocks.Proofs.Results
import Mathlib.Data.List.Nodup

/-! No table of a document holds a key twice. A table under construction gives no key away a second time,
however it is built: by headers, by elements of an array of tables, or by dotted keys, in the document or in
an inline table. -/

namespace CommentBlocks.Toml

inductive Value.Distinct : Value → Prop
  | string (t : Text) : Distinct (.string t)
  | integer (i : Int) : Distinct (.integer i)
  | float (x : Binary64) : Distinct (.float x)
  | boolean (b : Bool) : Distinct (.boolean b)
  | date (t : Text) : Distinct (.date t)
  | array {vs : List Value} (h : ∀ v ∈ vs, Distinct v) : Distinct (.array vs)
  | table {es : Table} (hn : (es.map Prod.fst).Nodup) (h : ∀ e ∈ es, Distinct e.2) : Distinct (.table es)

lemma Value.distinct_array_iff {vs : List Value} : (array vs).Distinct ↔ ∀ v ∈ vs, v.Distinct := by
  constructor
  · rintro ⟨⟩
    assumption
  · exact .array

lemma Value.distinct_table_iff {es : Table} :
    (table es).Distinct ↔ (es.map Prod.fst).Nodup ∧ ∀ e ∈ es, e.2.Distinct := by
  constructor
  · rintro ⟨⟩
    exact ⟨‹_›, ‹_›⟩
  · rintro ⟨hn, h⟩
    exact .table hn h

lemma foldlM_keeps {α β : Type} {P : β → Prop} {f : β → α → Option β} {as : List α} {b b' : β}
    (hf : ∀ b, ∀ a ∈ as, ∀ b', P b → f b a = some b' → P b') (hb : P b) (h : as.foldlM f b = some b') : P b' := by
  induction as generalizing b with
  | nil =>
    obtain rfl := Option.some.inj h
    exact hb
  | cons a as ih =>
    rw [List.foldlM_cons] at h
    obtain ⟨c, hc, hr⟩ := Option.bind_eq_some_iff.mp h
    exact ih (fun b x hx => hf b x (List.mem_cons_of_mem a hx)) (hf b a List.mem_cons_self c hb hc) hr

namespace Node

variable {es es' : Entries} {k : Text} {n : Node} {v : Value} {path : Key} {ts ts' : List Entries} {sub : Entries}
  {o : Origin} {f : Entries → Option Entries}

def Keyed (es : Entries) : Prop := (Value.table (tableOf es)).Distinct

lemma tableOf_eq_map (es : Entries) : tableOf es = es.map fun e => (e.1, e.2.value) := by
  induction es with
  | nil => rfl
  | cons e es ih => rw [tableOf, ih, List.map_cons]

lemma arrayOf_eq_map (ts : List Entries) : arrayOf ts = ts.map fun t => .table (tableOf t) := by
  induction ts with
  | nil => rfl
  | cons t ts ih => rw [arrayOf, ih, List.map_cons]

lemma keyed_iff : Keyed es ↔ (es.map Prod.fst).Nodup ∧ ∀ e ∈ es, e.2.value.Distinct := by
  rw [Keyed, Value.distinct_table_iff, tableOf_eq_map, List.map_map, List.forall_mem_map]
  rfl

lemma keyed_nil : Keyed [] := keyed_iff.mpr ⟨List.nodup_nil, by simp⟩

lemma distinct_value_table_iff : (table o es).value.Distinct ↔ Keyed es := by
  rw [value, Keyed]

lemma distinct_value_elements_iff : (elements ts).value.Distinct ↔ ∀ t ∈ ts, Keyed t := by
  rw [value, arrayOf_eq_map, Value.distinct_array_iff, List.forall_mem_map]
  rfl

lemma mem_of_find? (h : find? k es = some n) : (k, n) ∈ es := by
  obtain ⟨⟨k', n'⟩, he, rfl⟩ := Option.map_eq_some_iff.mp h
  obtain rfl : k' = k := by simpa using List.find?_some he
  exact List.mem_of_find?_eq_some he

lemma not_mem_of_find? (h : find? k es = none) : k ∉ es.map Prod.fst := by
  rw [find?, Option.map_eq_none_iff, List.find?_eq_none] at h
  simpa using fun n (hm : (k, n) ∈ es) => h (k, n) hm

lemma Keyed.distinct_of_find? (h : Keyed es) (hf : find? k es = some n) : n.value.Distinct :=
  (keyed_iff.mp h).2 (k, n) (mem_of_find? hf)

lemma Keyed.concat (h : Keyed es) (hf : find? k es = none) (hn : n.value.Distinct) : Keyed (es ++ [(k, n)]) := by
  obtain ⟨hnodup, hvalues⟩ := keyed_iff.mp h
  refine keyed_iff.mpr ⟨?_, ?_⟩
  · rw [List.map_append, List.map_singleton, ← List.concat_eq_append]
    exact hnodup.concat (not_mem_of_find? hf)
  · simpa [or_imp, forall_and] using ⟨fun a b hab => hvalues (a, b) hab, hn⟩

lemma map_fst_set (k : Text) (n : Node) (es : Entries) : (set k n es).map Prod.fst = es.map Prod.fst := by
  rw [set, List.map_map]
  refine List.map_congr_left fun e _ => ?_
  rw [Function.comp_apply]
  split_ifs with h
  · exact h.symm
  · rfl

lemma Keyed.set (h : Keyed es) (hn : n.value.Distinct) : Keyed (Node.set k n es) := by
  obtain ⟨hnodup, hvalues⟩ := keyed_iff.mp h
  refine keyed_iff.mpr ⟨by rwa [map_fst_set], ?_⟩
  rw [Node.set, List.forall_mem_map]
  intro e he
  split_ifs
  · exact hn
  · exact hvalues e he

lemma Keyed.erase (h : Keyed es) : Keyed (Node.erase k es) := by
  obtain ⟨hnodup, hvalues⟩ := keyed_iff.mp h
  refine keyed_iff.mpr ⟨hnodup.sublist ((List.filter_sublist).map Prod.fst), ?_⟩
  exact fun e he => hvalues e (List.mem_of_mem_filter he)

lemma find?_erase (k : Text) (es : Entries) : find? k (Node.erase k es) = none := by
  rw [find?, Option.map_eq_none_iff, List.find?_eq_none]
  intro e he
  simpa using (List.mem_filter.mp he).2

def Keeps (f : Entries → Option Entries) : Prop := ∀ es es', Keyed es → f es = some es' → Keyed es'

lemma Keeps.onLast? (hf : Keeps f) (ht : ∀ t ∈ ts, Keyed t) (h : Node.onLast? f ts = some ts') :
    ∀ t ∈ ts', Keyed t := by
  induction ts generalizing ts' with
  | nil => cases h
  | cons t ts ih =>
    obtain ⟨hhead, htail⟩ := List.forall_mem_cons.mp ht
    cases ts with
    | nil =>
      obtain ⟨t', ht', rfl⟩ := Option.map_eq_some_iff.mp h
      simpa using hf t t' hhead ht'
    | cons u ts =>
      obtain ⟨us, hus, rfl⟩ := Option.map_eq_some_iff.mp h
      exact List.forall_mem_cons.mpr ⟨hhead, ih htail hus⟩

lemma Keyed.concat_table (he : Keyed es) (hk : find? k es = none) (hf : Keeps f)
    (h : (f []).map (fun sub => es ++ [(k, table o sub)]) = some es') : Keyed es' := by
  obtain ⟨sub, hs, rfl⟩ := Option.map_eq_some_iff.mp h
  exact he.concat hk (distinct_value_table_iff.mpr (hf _ _ keyed_nil hs))

lemma Keyed.set_table (he : Keyed es) (hk : find? k es = some (table o sub)) (hf : Keeps f)
    (h : (f sub).map (fun sub => Node.set k (table o sub) es) = some es') : Keyed es' := by
  obtain ⟨sub', hs, rfl⟩ := Option.map_eq_some_iff.mp h
  have hsub : Keyed sub := distinct_value_table_iff.mp (he.distinct_of_find? hk)
  exact he.set (distinct_value_table_iff.mpr (hf _ _ hsub hs))

lemma Keyed.set_elements (he : Keyed es) (hk : find? k es = some (elements ts)) (hf : Keeps f)
    (h : (onLast? f ts).map (fun ts => Node.set k (elements ts) es) = some es') : Keyed es' := by
  obtain ⟨ts', hs, rfl⟩ := Option.map_eq_some_iff.mp h
  have hts : ∀ t ∈ ts, Keyed t := distinct_value_elements_iff.mp (he.distinct_of_find? hk)
  exact he.set (distinct_value_elements_iff.mpr (hf.onLast? hts hs))

lemma keeps_assign? (hv : v.Distinct) (k : Text) (path : Key) : Keeps (assign? k v path) := by
  induction path with
  | nil =>
    intro es es' he h
    rw [assign?] at h
    split_ifs at h with hk
    obtain rfl := Option.some.inj h
    exact he.concat (by simpa using hk) hv
  | cons p ps ih =>
    intro es es' he h
    rw [assign?] at h
    split at h
    · next hp => exact he.concat_table hp ih h
    · cases h
    · next hp =>
      split_ifs at h
      exact he.set_table hp ih h
    · next hp => exact he.set_table hp ih h
    · next hp =>
      split_ifs at h
      exact he.set_elements hp ih h
    · cases h

lemma Keeps.within? (hf : Keeps f) (path : Key) : Keeps (Node.within? f path) := by
  induction path with
  | nil => exact hf
  | cons p ps ih =>
    intro es es' he h
    rw [Node.within?] at h
    split at h
    · next hp => exact he.concat_table hp ih h
    · next hp => exact he.set_table hp ih h
    · next hp => exact he.set_elements hp ih h
    · cases h

lemma keeps_openTable? (k : Text) : Keeps (openTable? k) := by
  intro es es' he h
  rw [openTable?] at h
  split at h
  · next hk =>
    obtain rfl := Option.some.inj h
    exact he.concat hk (distinct_value_table_iff.mpr keyed_nil)
  · next hk =>
    obtain rfl := Option.some.inj h
    have hsub := distinct_value_table_iff.mp (he.distinct_of_find? hk)
    exact he.erase.concat (find?_erase k es) (distinct_value_table_iff.mpr hsub)
  · cases h

lemma keeps_openElement? (k : Text) : Keeps (openElement? k) := by
  intro es es' he h
  rw [openElement?] at h
  split at h
  · next hk =>
    obtain rfl := Option.some.inj h
    exact he.concat hk (distinct_value_elements_iff.mpr (by simpa using keyed_nil))
  · next hk =>
    obtain rfl := Option.some.inj h
    have hts := distinct_value_elements_iff.mp (he.distinct_of_find? hk)
    exact he.set (distinct_value_elements_iff.mpr (List.forall_mem_append.mpr ⟨hts, by simpa using keyed_nil⟩))
  · cases h

lemma exists_of_atLast? {α : Type} {g : Text → Key → Option α} {key : Key} {x : α} (h : atLast? g key = some x) :
    ∃ k path, g k path = some x := by
  rw [atLast?] at h
  split at h
  · cases h
  · exact ⟨_, _, h⟩

end Node

open Node

lemma distinct_of_tableOfAssignments? {assignments : List (Key × Value)} {es : Table}
    (ha : ∀ a ∈ assignments, a.2.Distinct) (h : tableOfAssignments? assignments = some es) :
    (Value.table es).Distinct := by
  obtain ⟨entries, hf, rfl⟩ := Option.map_eq_some_iff.mp h
  refine foldlM_keeps (P := Keyed) (fun es a hm es' he hs => ?_) keyed_nil hf
  obtain ⟨k, path, hs⟩ := exists_of_atLast? hs
  exact keeps_assign? (ha a hm) k path es es' he hs

def Statement.Distinct : Statement → Prop
  | assign _ v => v.Distinct
  | _ => True

namespace Draft

variable {d d' : Draft} {x : Statement} {key path : Key} {g : Text → Key → Option Entries}

lemma keyed_of_atLast? (hg : ∀ k ps es, g k ps = some es → Keyed es)
    (h : atLast? (fun k ps => (g k ps).map (⟨·, path⟩)) key = some d') : Keyed d'.entries := by
  obtain ⟨k, ps, h⟩ := exists_of_atLast? h
  obtain ⟨es, hs, rfl⟩ := Option.map_eq_some_iff.mp h
  exact hg k ps es hs

lemma keyed_of_add? (hx : x.Distinct) (hd : Keyed d.entries) (h : d.add? x = some d') : Keyed d'.entries := by
  cases x with
  | table path => exact keyed_of_atLast? (fun k ps _ => (keeps_openTable? k).within? ps _ _ hd) h
  | element path => exact keyed_of_atLast? (fun k ps _ => (keeps_openElement? k).within? ps _ _ hd) h
  | assign key v => exact keyed_of_atLast? (fun k ps _ => (keeps_assign? hx k ps).within? d.path _ _ hd) h

end Draft

lemma distinct_of_tableOfStatements? {statements : List Statement} {es : Table} (hx : ∀ x ∈ statements, x.Distinct)
    (h : tableOfStatements? statements = some es) : (Value.table es).Distinct := by
  obtain ⟨d, hd, rfl⟩ := Option.map_eq_some_iff.mp h
  exact foldlM_keeps (P := fun d => Keyed d.entries) (fun _ x hm _ => Draft.keyed_of_add? (hx x hm)) keyed_nil hd

def ReadsDistinct (value? : Text → Option (Value × Text)) : Prop := ∀ s v r, value? s = some (v, r) → v.Distinct

namespace Numbers

variable {negative : Bool} {n : Nat} {digits : Text} {places : Nat} {exponent : Int} {v : Value}

lemma distinct_of_integer? (h : integer? negative n = some v) : v.Distinct := by
  rw [integer?, Option.ite_none_right_eq_some] at h
  obtain ⟨-, h⟩ := h
  obtain rfl := Option.some.inj h
  exact .integer _

lemma distinct_of_float? (h : float? negative digits places exponent = some v) : v.Distinct := by
  rw [float?] at h
  split at h
  · cases h
  · obtain rfl := Option.some.inj h
    exact .float _

lemma readsDistinct_decimalNumber? (negative : Bool) : ReadsDistinct (decimalNumber? negative) := by
  intro s v r h
  have hfloat : ∀ {digits places e t},
      (float? negative digits places e).bind (fun x => some (x, t)) = some (v, r) → v.Distinct := by
    intro digits places e t h
    obtain ⟨x, hx, h⟩ := Option.bind_eq_some_iff.mp h
    obtain ⟨rfl, -⟩ := Prod.mk.inj (Option.some.inj h)
    exact distinct_of_float? hx
  rw [decimalNumber?] at h
  obtain ⟨⟨whole, rest⟩, -, h⟩ := Option.bind_eq_some_iff.mp h
  dsimp only at h
  split at h
  · obtain ⟨⟨fraction, rest⟩, -, h⟩ := Option.bind_eq_some_iff.mp h
    dsimp only at h
    split_ifs at h
    · obtain ⟨e, -, h⟩ := Option.bind_eq_some_iff.mp h
      exact hfloat h
    · exact hfloat h
  · split_ifs at h
    · obtain ⟨e, -, h⟩ := Option.bind_eq_some_iff.mp h
      exact hfloat h
    · obtain ⟨x, hx, h⟩ := Option.bind_eq_some_iff.mp h
      obtain ⟨rfl, -⟩ := Prod.mk.inj (Option.some.inj h)
      exact distinct_of_integer? hx

lemma readsDistinct_special? (negative : Bool) : ReadsDistinct (special? negative) := by
  intro s v r h
  rw [special?] at h
  split at h
  · obtain ⟨rfl, -⟩ := Prod.mk.inj (Option.some.inj h)
    exact .float _
  · obtain ⟨rfl, -⟩ := Prod.mk.inj (Option.some.inj h)
    exact .float _
  · cases h

lemma readsDistinct_based? (base : Nat) (p : Char → Bool) : ReadsDistinct (based? base p) := by
  intro s v r h
  rw [based?] at h
  obtain ⟨⟨digits, rest⟩, -, h⟩ := Option.bind_eq_some_iff.mp h
  obtain ⟨x, hx, h⟩ := Option.bind_eq_some_iff.mp h
  obtain ⟨rfl, -⟩ := Prod.mk.inj (Option.some.inj h)
  exact distinct_of_integer? hx

lemma readsDistinct_number? : ReadsDistinct number? := by
  intro s v r h
  rw [number?.eq_def] at h
  split at h
  · exact readsDistinct_based? _ _ _ _ _ h
  · exact readsDistinct_based? _ _ _ _ _ h
  · exact readsDistinct_based? _ _ _ _ _ h
  · dsimp only at h
    split at h
    · next hs =>
      obtain rfl := Option.some.inj h
      exact readsDistinct_special? _ _ _ _ hs
    · exact readsDistinct_decimalNumber? _ _ _ _ h

lemma readsDistinct_date? : ReadsDistinct date? := by
  intro s v r h
  rw [date?] at h
  split at h
  · split at h
    · obtain ⟨rfl, -⟩ := Prod.mk.inj (Option.some.inj h)
      exact .date _
    · obtain ⟨rfl, -⟩ := Prod.mk.inj (Option.some.inj h)
      exact .date _
  · obtain ⟨x, -, h⟩ := Option.map_eq_some_iff.mp h
    obtain ⟨rfl, -⟩ := Prod.mk.inj h
    exact .date _

lemma readsDistinct_truth? : ReadsDistinct truth? := by
  intro s v r h
  rw [truth?] at h
  split at h
  · obtain ⟨rfl, -⟩ := Prod.mk.inj (Option.some.inj h)
    exact .boolean _
  · obtain ⟨rfl, -⟩ := Prod.mk.inj (Option.some.inj h)
    exact .boolean _
  · cases h

lemma readsDistinct_scalar? : ReadsDistinct scalar? := by
  intro s v r h
  rw [scalar?] at h
  split at h
  · obtain ⟨rfl, -⟩ := Prod.mk.inj (Option.some.inj h)
    exact .string _
  · next ht =>
    obtain rfl := Option.some.inj h
    exact readsDistinct_truth? _ _ _ ht
  · next hd =>
    obtain rfl := Option.some.inj h
    exact readsDistinct_date? _ _ _ hd
  · exact readsDistinct_number? _ _ _ h

end Numbers

namespace Grammar

variable {value? : Text → Option (Value × Text)} {n : Nat} {s r : Text} {vs : List Value}
  {assignments : List (Key × Value)} {a : Key × Value} {x : Statement} {xs : List Statement}

lemma distinct_of_items? (hv : ReadsDistinct value?) (h : items? value? n s = some (vs, r)) :
    ∀ v ∈ vs, v.Distinct := by
  induction n generalizing s vs r with
  | zero => cases h
  | succ n ih =>
    rw [items?] at h
    obtain ⟨t, -, h⟩ := Option.bind_eq_some_iff.mp h
    split at h
    · obtain ⟨rfl, -⟩ := Prod.mk.inj (Option.some.inj h)
      exact fun v hm => absurd hm List.not_mem_nil
    · obtain ⟨⟨v, t'⟩, hx, h⟩ := Option.bind_eq_some_iff.mp h
      obtain ⟨t'', -, h⟩ := Option.bind_eq_some_iff.mp h
      split at h
      · obtain ⟨⟨ws, r'⟩, hws, h⟩ := Option.bind_eq_some_iff.mp h
        obtain ⟨rfl, -⟩ := Prod.mk.inj (Option.some.inj h)
        exact List.forall_mem_cons.mpr ⟨hv _ _ _ hx, ih hws⟩
      · obtain ⟨rfl, -⟩ := Prod.mk.inj (Option.some.inj h)
        exact List.forall_mem_singleton.mpr (hv _ _ _ hx)
      · cases h

lemma distinct_of_assignment? (hv : ReadsDistinct value?) (h : assignment? value? s = some (a, r)) :
    a.2.Distinct := by
  rw [assignment?] at h
  obtain ⟨⟨key, t⟩, -, h⟩ := Option.bind_eq_some_iff.mp h
  obtain ⟨t', -, h⟩ := Option.bind_eq_some_iff.mp h
  obtain ⟨⟨v, t''⟩, hx, h⟩ := Option.bind_eq_some_iff.mp h
  obtain ⟨rfl, -⟩ := Prod.mk.inj (Option.some.inj h)
  exact hv _ _ _ hx

lemma distinct_of_fields? (hv : ReadsDistinct value?) (h : fields? value? n s = some (assignments, r)) :
    ∀ a ∈ assignments, a.2.Distinct := by
  induction n generalizing s assignments r with
  | zero => cases h
  | succ n ih =>
    rw [fields?] at h
    obtain ⟨⟨a, t⟩, ha, h⟩ := Option.bind_eq_some_iff.mp h
    dsimp only at h
    split at h
    · obtain ⟨⟨as, r'⟩, has, h⟩ := Option.bind_eq_some_iff.mp h
      obtain ⟨rfl, -⟩ := Prod.mk.inj (Option.some.inj h)
      exact List.forall_mem_cons.mpr ⟨distinct_of_assignment? hv ha, ih has⟩
    · obtain ⟨r', -, h⟩ := Option.bind_eq_some_iff.mp h
      obtain ⟨rfl, -⟩ := Prod.mk.inj (Option.some.inj h)
      exact List.forall_mem_singleton.mpr (distinct_of_assignment? hv ha)

lemma readsDistinct_inlineTable? (hv : ReadsDistinct value?) : ReadsDistinct (inlineTable? value?) := by
  intro s v r h
  rw [inlineTable?] at h
  split at h
  · obtain ⟨rfl, -⟩ := Prod.mk.inj (Option.some.inj h)
    exact .table List.nodup_nil fun e he => absurd he List.not_mem_nil
  · obtain ⟨⟨assignments, r'⟩, ha, h⟩ := Option.bind_eq_some_iff.mp h
    obtain ⟨es, hes, h⟩ := Option.bind_eq_some_iff.mp h
    obtain ⟨rfl, -⟩ := Prod.mk.inj (Option.some.inj h)
    exact distinct_of_tableOfAssignments? (distinct_of_fields? hv ha) hes

lemma readsDistinct_value? (depth : Nat) : ReadsDistinct (Grammar.value? depth) := by
  induction depth with
  | zero => exact Numbers.readsDistinct_scalar?
  | succ depth ih =>
    intro s v r h
    rw [Grammar.value?.eq_def] at h
    dsimp only at h
    split at h
    · cases h
    · split_ifs at h
      · obtain ⟨⟨vs, r'⟩, hvs, h⟩ := Option.map_eq_some_iff.mp h
        obtain ⟨rfl, -⟩ := Prod.mk.inj h
        exact .array (distinct_of_items? ih hvs)
      · exact readsDistinct_inlineTable? ih _ _ _ h
      · exact Numbers.readsDistinct_scalar? _ _ _ h

lemma distinct_of_header? (h : header? s = some (x, r)) : x.Distinct := by
  rw [header?.eq_def] at h
  split at h
  · obtain ⟨⟨path, t⟩, -, h⟩ := Option.bind_eq_some_iff.mp h
    obtain ⟨t', -, h⟩ := Option.bind_eq_some_iff.mp h
    obtain ⟨t'', -, h⟩ := Option.bind_eq_some_iff.mp h
    obtain ⟨rfl, -⟩ := Prod.mk.inj (Option.some.inj h)
    trivial
  · obtain ⟨⟨path, t⟩, -, h⟩ := Option.bind_eq_some_iff.mp h
    obtain ⟨t', -, h⟩ := Option.bind_eq_some_iff.mp h
    obtain ⟨t'', -, h⟩ := Option.bind_eq_some_iff.mp h
    obtain ⟨rfl, -⟩ := Prod.mk.inj (Option.some.inj h)
    trivial
  · cases h

lemma distinct_of_statement? (h : statement? s = some (x, r)) : x.Distinct := by
  rw [statement?.eq_def] at h
  split at h
  · exact distinct_of_header? h
  · obtain ⟨⟨⟨key, v⟩, t⟩, ha, h⟩ := Option.bind_eq_some_iff.mp h
    obtain ⟨t', -, h⟩ := Option.bind_eq_some_iff.mp h
    obtain ⟨rfl, -⟩ := Prod.mk.inj (Option.some.inj h)
    exact distinct_of_assignment? (readsDistinct_value? _) ha

lemma distinct_of_statements? (h : statements? n s = some xs) : ∀ x ∈ xs, x.Distinct := by
  have hnil : ∀ x ∈ ([] : List Statement), x.Distinct := fun x hm => absurd hm List.not_mem_nil
  induction n generalizing s xs with
  | zero =>
    rw [statements?] at h
    split_ifs at h
    obtain rfl := Option.some.inj h
    exact hnil
  | succ n ih =>
    rw [statements?] at h
    split at h
    · obtain rfl := Option.some.inj h
      exact hnil
    · obtain ⟨t, -, h⟩ := Option.bind_eq_some_iff.mp h
      exact ih h
    · split at h
      · exact ih h
      · obtain ⟨⟨x, t⟩, hx, h⟩ := Option.bind_eq_some_iff.mp h
        obtain ⟨ys, hys, h⟩ := Option.bind_eq_some_iff.mp h
        obtain rfl := Option.some.inj h
        exact List.forall_mem_cons.mpr ⟨distinct_of_statement? hx, ih hys⟩

end Grammar

lemma parse?_of_statements? {content : Text} {n : Nat} {xs : List Statement}
    (h : Grammar.statements? n content = some xs) (hn : content.length = n)
    (hmark : content.head? ≠ some (Char.ofNat 0xFEFF)) : parse? content = tableOfStatements? xs := by
  rw [parse?, if_neg hmark, hn, h, Option.bind_some]

lemma distinct_of_parse? {content : Text} {es : Table} (h : parse? content = some es) :
    (Value.table es).Distinct := by
  obtain ⟨xs, hxs, h⟩ := Option.bind_eq_some_iff.mp h
  exact distinct_of_tableOfStatements? (Grammar.distinct_of_statements? hxs) h

end CommentBlocks.Toml
