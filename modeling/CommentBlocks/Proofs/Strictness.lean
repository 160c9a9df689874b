import CommentBlocks.Settings.Read
import CommentBlocks.Proofs.Reordering
import CommentBlocks.Proofs.TargetNames

namespace CommentBlocks.Settings

open Toml Value

variable {s : Settings} {ts : List (Text × Target)} {t : Target} {o : Overlay} {name k : Text} {x v w : Value}
  {root path : Path} {content : Text} {es fs as bs : Table} {e : Text × Value}

def readTree (path : Path) (es : Table) : Except ReadError Settings := (decode (rootOf path) es).mapError .unfit

lemma read_of_parse? (h : parse? content = some es) : read path content = readTree path es := by
  rw [read, h]
  rfl

lemma settingsEntry_options (s : Settings) (v : Value) :
    settingsEntry s ("options".toList, v) = do return { s with options := ← decodeOverlay v } := rfl

lemma settingsEntry_targets (s : Settings) (v : Value) :
    settingsEntry s ("targets".toList, v) = do return { s with targets := ← decodeTargets v } := rfl

lemma targetEntry_options (d : TargetDraft) (v : Value) :
    targetEntry d ("options".toList, v) = do return { d with options := ← decodeOverlay v } := rfl

section Strict

inductive Record
  | settings
  | target
  | overlay

def Record.fields : Record → List String
  | settings => settingsFields
  | target => targetFields
  | overlay => overlayFields

/-- The first value is read as a record of the kind `r`. The second one has an entry more, in the table that
is this record or in a table that is read as a record inside it; the record with that entry is of the kind
`q`. -/
inductive Gains (k : Text) (x : Value) (q : Record) : Record → Value → Value → Prop
  | here (as bs : Table) : Gains k x q q (.table (as ++ bs)) (.table (as ++ (k, x) :: bs))
  | options {r : Record} (hr : r ≠ .overlay) (as bs : Table) {v w : Value} (h : Gains k x q .overlay v w) :
      Gains k x q r (.table (as ++ ("options".toList, v) :: bs)) (.table (as ++ ("options".toList, w) :: bs))
  | item (base patterns destination : Value) (rest : List Value) {v w : Value} (h : Gains k x q .overlay v w) :
      Gains k x q .target (.array (base :: patterns :: destination :: v :: rest))
        (.array (base :: patterns :: destination :: w :: rest))
  | target (as bs cs ds : Table) (name : Text) {v w : Value} (h : Gains k x q .target v w) :
      Gains k x q .settings (.table (as ++ ("targets".toList, .table (cs ++ (name, v) :: ds)) :: bs))
        (.table (as ++ ("targets".toList, .table (cs ++ (name, w) :: ds)) :: bs))

variable {q : Record}

lemma foldlM_insert_of_unknown {β : Type} {f : β → Text × Value → Decoded β} {fields : List (Field β)}
    {known : List String} {b c : β} (hf : f = entry known fields) (hk : k ∉ fields.map fun r => r.name.toList)
    (h : (as ++ bs).foldlM f b = .ok c) : (as ++ (k, x) :: bs).foldlM f b = .error (.unknownField k known) := by
  subst hf
  exact foldlM_insert_eq_error h fun b => entry_eq_error hk b x

lemma decodeOverlay_eq_error (h : Gains k x q .overlay v w) (hk : k ∉ q.fields.map String.toList)
    (hv : decodeOverlay v = .ok o) : decodeOverlay w = .error (.unknownField k q.fields) := by
  cases h with
  | here as bs => exact foldlM_insert_of_unknown overlayEntry_eq hk hv
  | options hr => exact absurd rfl hr

lemma decodeTarget_array (a b c d : Value) (rest : List Value) :
    decodeTarget (.array (a :: b :: c :: d :: rest)) = do
      let base ← decodePath a
      let patterns ← decodeTexts b
      let destination ← decodePath c
      let options ← decodeOverlay d
      return ⟨some base, patterns, some destination, options⟩ := by
  simp only [decodeTarget, List.drop_succ_cons, List.drop_zero, decodeFirst]
  cases decodePath a with
  | error x => rfl
  | ok base =>
    cases decodeTexts b with
    | error x => rfl
    | ok patterns =>
      cases decodePath c with
      | error x => rfl
      | ok destination => cases decodeOverlay d <;> rfl

lemma decodeTarget_eq_error (h : Gains k x q .target v w) (hk : k ∉ q.fields.map String.toList)
    (hv : decodeTarget v = .ok t) : decodeTarget w = .error (.unknownField k q.fields) := by
  cases h with
  | here as bs =>
    obtain ⟨d, hd, -⟩ := exists_of_bind_eq_ok hv
    rw [decodeTarget, foldlM_insert_of_unknown targetEntry_eq hk hd]
    rfl
  | options hr as bs h =>
    obtain ⟨d, hd, -⟩ := exists_of_bind_eq_ok hv
    rw [decodeTarget, foldlM_replace_eq_error hd fun d d' hd' => ?_]
    · rfl
    · rw [targetEntry_options] at hd' ⊢
      obtain ⟨o, ho, -⟩ := exists_of_bind_eq_ok hd'
      rw [decodeOverlay_eq_error h hk ho]
      rfl
  | item base patterns destination rest h =>
    rw [decodeTarget_array] at hv
    obtain ⟨b, hb, hv⟩ := exists_of_bind_eq_ok hv
    obtain ⟨ps, hps, hv⟩ := exists_of_bind_eq_ok hv
    obtain ⟨d, hd, hv⟩ := exists_of_bind_eq_ok hv
    obtain ⟨o, ho, -⟩ := exists_of_bind_eq_ok hv
    simp only [decodeTarget_array, hb, hps, hd, decodeOverlay_eq_error h hk ho]
    rfl

lemma decodeTargets_eq_error (h : Gains k x q .target v w) (hk : k ∉ q.fields.map String.toList)
    (hv : decodeTargets (.table (as ++ (name, v) :: bs)) = .ok ts) :
    decodeTargets (.table (as ++ (name, w) :: bs)) = .error (.unknownField k q.fields) := by
  refine foldlM_replace_eq_error hv fun us us' hus => ?_
  obtain ⟨t, ht, -⟩ := exists_of_bind_eq_ok hus
  rw [decodeTarget_eq_error h hk ht]
  rfl

lemma decode_eq_error (h : Gains k x q .settings (.table es) (.table fs)) (hk : k ∉ q.fields.map String.toList)
    (hs : decode root es = .ok s) : decode root fs = .error (.unknownField k q.fields) := by
  cases h with
  | here as bs => exact foldlM_insert_of_unknown settingsEntry_eq hk hs
  | options hr as bs h =>
    refine foldlM_replace_eq_error hs fun m m' hm => ?_
    rw [settingsEntry_options] at hm ⊢
    obtain ⟨o, ho, -⟩ := exists_of_bind_eq_ok hm
    rw [decodeOverlay_eq_error h hk ho]
    rfl
  | target as bs cs ds name h =>
    refine foldlM_replace_eq_error hs fun m m' hm => ?_
    rw [settingsEntry_targets] at hm ⊢
    obtain ⟨ts, hts, -⟩ := exists_of_bind_eq_ok hm
    rw [decodeTargets_eq_error h hk hts]
    rfl

end Strict

section OneMore

/-- A target is added to a document: to its table of targets, or in a new one if there is none. -/
inductive TargetAdded (name : Text) (v : Value) : Table → Table → Prop
  | among (as bs cs ds : Table) (h : name ∉ (cs ++ ds).map Prod.fst) :
      TargetAdded name v (as ++ ("targets".toList, .table (cs ++ ds)) :: bs)
        (as ++ ("targets".toList, .table (cs ++ (name, v) :: ds)) :: bs)
  | alone (as bs : Table) (h : "targets".toList ∉ (as ++ bs).map Prod.fst) :
      TargetAdded name v (as ++ bs) (as ++ ("targets".toList, .table [(name, v)]) :: bs)

lemma nodup_map_fst_insert (hn : ((as ++ bs).map Prod.fst).Nodup) (h : k ∉ (as ++ bs).map Prod.fst) :
    ((as ++ (k, v) :: bs).map Prod.fst).Nodup := by
  rw [List.map_append] at hn h
  rw [List.map_append, List.map_cons, List.nodup_middle]
  exact List.nodup_cons.mpr ⟨h, hn⟩

lemma map_fst_subset_of_decodeTargets (h : decodeTargets (.table es) = .ok ts) :
    ∀ m ∈ ts.map Prod.fst, m ∈ es.map Prod.fst := by
  refine foldlM_preserves (P := fun ts => ∀ m ∈ ts.map Prod.fst, m ∈ es.map Prod.fst) (fun us e he us' hus h => ?_)
    (fun m hm => absurd hm List.not_mem_nil) h
  obtain ⟨t, -, ht⟩ := exists_of_bind_eq_ok h
  obtain rfl := Except.ok.inj ht
  intro m hm
  rw [map_fst_insertTarget, Disk.mem_insertName] at hm
  rcases hm with rfl | hm
  · exact List.mem_map_of_mem he
  · exact hus m hm

lemma targets_eq_nil_of_decode (h : "targets".toList ∉ es.map Prod.fst) (hs : decode root es = .ok s) :
    s.targets = [] := by
  refine foldlM_preserves (P := fun s => s.targets = []) (fun m e he m' hm hm' => ?_) rfl hs
  have hne : e.1 ≠ "targets".toList := fun heq => h (heq ▸ List.mem_map_of_mem he)
  rw [settingsEntry, if_neg hne] at hm'
  split_ifs at hm'
  obtain ⟨o, -, ho⟩ := exists_of_bind_eq_ok hm'
  obtain rfl := Except.ok.inj ho
  exact hm

lemma find?_insertTarget (name : Text) (t : Target) (ts : List (Text × Target)) :
    (insertTarget name t ts).find? (fun e => e.1 = name) = some (name, t) := by
  induction ts with
  | nil => simp [insertTarget]
  | cons e ts ih =>
    rw [insertTarget]
    split_ifs with heq hlt
    · simp
    · simp
    · rw [List.find?_cons_of_neg (by simpa using heq), ih]

lemma filter_insertTarget (h : name ∉ ts.map Prod.fst) :
    (insertTarget name t ts).filter (fun e => e.1 ≠ name) = ts := by
  have hself : ∀ us : List (Text × Target), name ∉ us.map Prod.fst → us.filter (fun e => e.1 ≠ name) = us := by
    intro us hus
    refine List.filter_eq_self.mpr fun e he => decide_eq_true fun heq => hus ?_
    exact heq ▸ List.mem_map_of_mem he
  induction ts with
  | nil => simp [insertTarget]
  | cons e ts ih =>
    obtain ⟨hne, hrest⟩ := not_or.mp (mt List.mem_cons.mpr h)
    rw [insertTarget, if_neg (Ne.symm hne)]
    split_ifs
    · rw [List.filter_cons_of_neg (by simp)]
      exact hself (e :: ts) h
    · rw [List.filter_cons_of_pos (by simpa using Ne.symm hne), ih hrest]

lemma decodeTargets_insert (hd : (Value.table (as ++ bs)).Distinct) (h : name ∉ (as ++ bs).map Prod.fst)
    (hts : decodeTargets (.table (as ++ bs)) = .ok ts) (ht : decodeTarget v = .ok t) :
    decodeTargets (.table (as ++ (name, v) :: bs)) = .ok (insertTarget name t ts) := by
  have hn := nodup_map_fst_insert (v := v) (distinct_table_iff.mp hd).1 h
  refine (orderless_targetsEntry.foldlM_eq_ok_iff hn).mpr ⟨ts, hts, ?_⟩
  rw [targetsEntry, ht]
  rfl

lemma decode_of_targetAdded (hd : (Value.table es).Distinct) (h : TargetAdded name v es fs)
    (hs : decode root es = .ok s) (ht : decodeTarget v = .ok t) :
    name ∉ s.names ∧ decode root fs = .ok { s with targets := insertTarget name t s.targets } := by
  obtain ⟨hn, hvalues⟩ := distinct_table_iff.mp hd
  -- the targets may as well be decoded last, after all that stays the same
  cases h with
  | among as bs cs ds hname =>
    obtain ⟨m, hm, hlast⟩ := (orderless_settingsEntry.foldlM_eq_ok_iff hn).mp hs
    rw [settingsEntry_targets] at hlast
    obtain ⟨ts, hts, hok⟩ := exists_of_bind_eq_ok hlast
    obtain rfl := Except.ok.inj hok
    have hdt : (Value.table (cs ++ ds)).Distinct := hvalues (_, _) List.mem_append_cons_self
    refine ⟨fun hmem => hname (map_fst_subset_of_decodeTargets hts name hmem), ?_⟩
    rw [List.map_append, List.map_cons] at hn
    refine (orderless_settingsEntry.foldlM_eq_ok_iff (by rwa [List.map_append, List.map_cons])).mpr ⟨m, hm, ?_⟩
    rw [settingsEntry_targets, decodeTargets_insert hdt hname hts ht]
    rfl
  | alone as bs hnone =>
    have hnil := targets_eq_nil_of_decode hnone hs
    refine ⟨by rw [names, hnil]; exact List.not_mem_nil, ?_⟩
    refine (orderless_settingsEntry.foldlM_eq_ok_iff (nodup_map_fst_insert hn hnone)).mpr ⟨s, hs, ?_⟩
    rw [settingsEntry_targets, decodeTargets_table, List.foldlM_cons, targetsEntry, ht, hnil]
    rfl

end OneMore

/-- The order of the keys in a document does not count; a key that is not a field of its record is not
accepted in any record; and one more target that can be read leaves the options and the other targets as they
are. -/
theorem read_orderless_and_strict (path : Path) (hparse : parse? content = some es) :
    (∀ fs, (Value.table es).Reordered (.table fs) →
      (readTree path fs).toOption = (read path content).toOption) ∧
    ∀ s, read path content = .ok s →
      (∀ k x q fs, Gains k x q .settings (.table es) (.table fs) → k ∉ q.fields.map String.toList →
        readTree path fs = .error (.unfit (.unknownField k q.fields))) ∧
      ∀ name v t fs, TargetAdded name v es fs → decodeTarget v = .ok t →
        ∃ s', readTree path fs = .ok s' ∧ s'.options = s.options ∧ s'.root = s.root ∧ s'.target name = .ok t ∧
          s'.targets.filter (fun e => e.1 ≠ name) = s.targets := by
  have hd := distinct_of_parse? hparse
  rw [read_of_parse? hparse]
  refine ⟨fun fs h => ?_, fun s hs => ⟨fun k x q fs h hk => ?_, fun name v t fs h ht => ?_⟩⟩
  · rw [readTree, readTree, toOption_mapError, toOption_mapError, toOption_decode_of_reordered hd h]
  · rw [readTree, decode_eq_error h hk (mapError_eq_ok_iff.mp hs)]
    rfl
  · obtain ⟨hname, hdecode⟩ := decode_of_targetAdded hd h (mapError_eq_ok_iff.mp hs) ht
    refine ⟨_, mapError_eq_ok_iff.mpr hdecode, rfl, rfl, ?_, filter_insertTarget hname⟩
    rw [target, find?_insertTarget]

def removal : Text × Value := ("remove_directive_lines".toList, .boolean true)

def allFiles : Value := .table [("files".toList, .array [.string "*".toList])]

theorem read_orderless_and_strict_of_one_target :
    parse? "[options]\nremove_directive_lines=true\n[targets.b]\nfiles=['*']\n".toList =
      some [("options".toList, .table [removal]), ("targets".toList, .table [("b".toList, allFiles)])] ∧
    (readTree ⟨"p/t".toList⟩ [("targets".toList, .table [("b".toList, allFiles)]),
      ("options".toList, .table [removal])]).toOption =
        some ⟨⟨some true, none⟩, [("b".toList, ⟨none, ["*".toList], none, {}⟩)], ⟨"p".toList⟩⟩ ∧
    readTree ⟨"p/t".toList⟩ [("options".toList, .table [removal, ("pading".toList, .integer 2)]),
      ("targets".toList, .table [("b".toList, allFiles)])] =
        .error (.unfit (.unknownField "pading".toList overlayFields)) ∧
    ∃ s', readTree ⟨"p/t".toList⟩ [("options".toList, .table [removal]),
      ("targets".toList, .table [("a".toList, allFiles), ("b".toList, allFiles)])] = .ok s' ∧
        s'.options = ⟨some true, none⟩ ∧ s'.target "a".toList = .ok ⟨none, ["*".toList], none, {}⟩ := by
  have hparse : parse? "[options]\nremove_directive_lines=true\n[targets.b]\nfiles=['*']\n".toList =
      some [("options".toList, .table [removal]), ("targets".toList, .table [("b".toList, allFiles)])] := by
    have hstatements : Grammar.statements? 62
          "[options]\nremove_directive_lines=true\n[targets.b]\nfiles=['*']\n".toList =
        some [.table ["options".toList], .assign ["remove_directive_lines".toList] (.boolean true),
          .table ["targets".toList, "b".toList], .assign ["files".toList] (.array [.string "*".toList])] := rfl
    rw [parse?_of_statements? hstatements rfl (by decide)]
    rfl
  obtain ⟨horder, hstrict⟩ := read_orderless_and_strict ⟨"p/t".toList⟩ hparse
  have hread : read ⟨"p/t".toList⟩ "[options]\nremove_directive_lines=true\n[targets.b]\nfiles=['*']\n".toList =
      .ok ⟨⟨some true, none⟩, [("b".toList, ⟨none, ["*".toList], none, {}⟩)], ⟨"p".toList⟩⟩ := by
    rw [read_of_parse? hparse]
    rfl
  obtain ⟨herror, hmore⟩ := hstrict _ hread
  refine ⟨hparse, ?_, ?_, ?_⟩
  · rw [horder _ (.single (.table (List.Perm.swap _ _ _))), hread]
    rfl
  · exact herror "pading".toList (.integer 2) .overlay _ (.options (by rintro ⟨⟩) [] _ (.here [removal] []))
      (by decide)
  · have hadded : TargetAdded "a".toList allFiles _ _ :=
      .among [("options".toList, .table [removal])] [] [] [("b".toList, allFiles)] (by decide)
    obtain ⟨s', hs', ho, -, ht, -⟩ := hmore "a".toList allFiles _ _ hadded rfl
    exact ⟨s', hs', ho, ht⟩

end CommentBlocks.Settings
