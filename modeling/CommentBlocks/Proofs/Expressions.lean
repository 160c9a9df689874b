import CommentBlocks.Proofs.Detection

/-! The pattern of delimiters, read as patterns are read: characters, `.` and `\s`, a star behind one of
these, groups, and `^` in front. Of the ways to match it, the first one tried counts. It says what the
detection does, and the delimiters in it stand for themselves, whatever characters they have. -/

namespace CommentBlocks

open Text

inductive Chars where
  | char (c : Char)
  | any
  | blank
  deriving DecidableEq, Repr

def Chars.holds : Chars → Char → Bool
  | char a, c => a = c
  | any, c => c ≠ '\n'
  | blank, c => isBlank c

inductive Expression where
  | done
  | one (cs : Chars) (next : Expression)
  | many (cs : Chars) (next : Expression)
  | group (inner next : Expression)
  deriving DecidableEq, Repr

/-- A way to match a pattern: the text that it takes, the parts of it that the groups take, in the order in
which the groups open, and what is left. -/
structure Way where
  taken : Text
  groups : List Text
  rest : Text
  deriving DecidableEq, Repr

namespace Expression

inductive Symbol where
  | chars (cs : Chars)
  | star
  | opens
  | closes
  deriving DecidableEq, Repr

def symbol? (c : Char) : Option Symbol :=
  if c = '.' then some (.chars .any)
  else if c = '*' then some .star
  else if c = '(' then some .opens
  else if c = ')' then some .closes
  else if Delimiters.metaChars.contains c then none
  else some (.chars (.char c))

-- not all that a pattern may hold is read here
def symbols? : Text → Option (List Symbol)
  | [] => some []
  | '\\' :: 's' :: r => (symbols? r).map (.chars .blank :: ·)
  | '\\' :: c :: r => if Delimiters.metaChars.contains c then (symbols? r).map (.chars (.char c) :: ·) else none
  | c :: r => (symbol? c).bind fun x => (symbols? r).map (x :: ·)

def onTop (f : Expression → Expression) : List Expression → List Expression
  | [] => []
  | e :: es => f e :: es

/-- What the symbols read so far, from the end, make at each level of the groups that are still to open. -/
def levels? : List Symbol → Option (List Expression)
  | [] => some [done]
  | .chars cs :: .star :: xs => (levels? xs).map (onTop (many cs))
  | .chars cs :: xs => (levels? xs).map (onTop (one cs))
  | .star :: _ => none
  | .closes :: xs => (levels? xs).map (done :: ·)
  | .opens :: xs =>
    match levels? xs with
    | some (inner :: next :: es) => some (group inner next :: es)
    | _ => none

def read? : Text → Option Expression
  | '^' :: s =>
    match (symbols? s).bind levels? with
    | some [e] => some e
    | _ => none
  | _ => none

def runs (p : Char → Bool) : Text → List (Text × Text)
  | [] => [([], [])]
  | c :: r => (if p c then (runs p r).map fun (run, rest) => (c :: run, rest) else []) ++ [([], c :: r)]

/-- The ways to match, in the order in which they are tried. -/
def ways : Expression → Text → List Way
  | done, s => [⟨[], [], s⟩]
  | one _ _, [] => []
  | one cs next, c :: s => if cs.holds c then (next.ways s).map fun v => { v with taken := c :: v.taken } else []
  | many cs next, s => (runs cs.holds s).flatMap fun (run, rest) =>
      (next.ways rest).map fun v => { v with taken := run ++ v.taken }
  | group inner next, s => (inner.ways s).flatMap fun v =>
      (next.ways v.rest).map fun u => ⟨v.taken ++ u.taken, v.taken :: (v.groups ++ u.groups), u.rest⟩

def find? (e : Expression) (s : Text) : Option Way := (e.ways s).head?

variable {p : Char → Bool} {s t : Text} {xs : List Symbol} {next : Expression} {es : List Expression}

def plain (s : Text) (next : Expression) : Expression := s.foldr (fun c e => one (.char c) e) next

lemma symbols?_escape (s t : Text) :
    symbols? (Delimiters.escape s ++ t) = (symbols? t).map (s.map (fun c => .chars (.char c)) ++ ·) := by
  induction s with
  | nil =>
    rw [Delimiters.escape, List.flatMap_nil, List.nil_append]
    cases symbols? t <;> rfl
  | cons c s ih =>
    rw [Delimiters.escape, List.flatMap_cons, ← Delimiters.escape]
    split_ifs with hc
    · have hs : c ≠ 's' := by
        rintro rfl
        exact absurd hc (by decide)
      simp only [List.cons_append, List.nil_append]
      rw [symbols?.eq_3 _ _ hs, if_pos hc, ih]
      cases symbols? t <;> rfl
    · have hmeta : ∀ x ∈ Delimiters.metaChars, c ≠ x := by
        rintro x hx rfl
        exact hc (List.contains_iff_mem.mpr hx)
      have hsymbol : symbol? c = some (.chars (.char c)) := by
        simp only [symbol?, hmeta '.' (by decide), hmeta '*' (by decide), hmeta '(' (by decide),
          hmeta ')' (by decide), hc, if_false]
        rfl
      have hescape : c ≠ '\\' := hmeta '\\' (by decide)
      simp only [List.cons_append, List.nil_append]
      rw [symbols?.eq_4 _ _ (fun _ h => absurd h hescape) (fun _ _ h => absurd h hescape), hsymbol, ih]
      cases symbols? t <;> rfl

lemma levels?_plain (s : Text) (h : ∀ ys, xs ≠ .star :: ys) :
    levels? (s.map (fun c => .chars (.char c)) ++ xs) = (levels? xs).map (onTop (plain s)) := by
  induction s with
  | nil =>
    rw [List.map_nil, List.nil_append]
    cases levels? xs with
    | none => rfl
    | some es => cases es <;> rfl
  | cons c s ih =>
    rw [List.map_cons, List.cons_append, levels?.eq_3, ih, Option.map_map]
    · congr 1
      funext es
      cases es <;> rfl
    · cases s with
      | nil => exact h
      | cons => exact fun _ h => by cases h

def ofDelimiters (d : Delimiters) : Expression :=
  group (many .blank done) (group (plain d.opening done) (group (many .any done) (plain d.closing done)))

lemma read?_pattern (d : Delimiters) : read? d.pattern = some (ofDelimiters d) := by
  have hclosing : symbols? (Delimiters.escape d.closing) = some (d.closing.map fun c => .chars (.char c)) := by
    have h := symbols?_escape d.closing []
    rwa [List.append_nil, symbols?, Option.map_some, List.append_nil] at h
  have hplain : levels? (d.closing.map fun c => .chars (.char c)) = some [plain d.closing done] := by
    have h := @levels?_plain [] d.closing (by simp)
    rwa [List.append_nil, levels?, Option.map_some] at h
  rw [Delimiters.pattern, List.append_assoc, List.append_assoc]
  simp [read?, symbols?, symbol?, symbols?_escape, hclosing, levels?, levels?_plain, hplain]
  rfl

lemma head?_flatMap_runs {α β : Type} (f : Text → List α) (g : Text → α → β) (s : Text) :
    ((runs p s).flatMap fun x => (f x.2).map (g x.1)).head? =
      (longestRun? p (fun r => (f r).head?) s).map fun x => g x.1 x.2 := by
  induction s generalizing g with
  | nil => simp [runs, longestRun?, List.head?_map, Function.comp_def]
  | cons c r ih =>
    rw [runs, longestRun?, List.flatMap_append, List.head?_append]
    by_cases hc : p c = true
    · have hr := ih fun run => g (c :: run)
      rw [if_pos hc, if_pos hc, List.flatMap_map, hr]
      cases longestRun? p (fun r => (f r).head?) r <;> simp [List.head?_map, Function.comp_def]
    · simp [hc, List.head?_map, Function.comp_def]

lemma ways_plain (s : Text) (next : Expression) (t : Text) :
    (plain s next).ways t = match after? s t with
      | some r => (next.ways r).map fun v => { v with taken := s ++ v.taken }
      | none => [] := by
  induction s generalizing t with
  | nil => simp [plain, after?]
  | cons c s ih =>
    cases t with
    | nil => rfl
    | cons x t =>
      rw [plain, List.foldr_cons, ← plain, ways, after?, ih]
      by_cases hx : c = x
      · subst hx
        simp only [Chars.holds, decide_true, if_true]
        cases after? s t <;> simp
      · simp [Chars.holds, hx]

lemma head?_ways_group_many (cs : Chars) (next : Expression) (s : Text) :
    ((group (many cs done) next).ways s).head? = (longestRun? cs.holds next.find? s).map fun x =>
      ⟨x.1 ++ x.2.taken, x.1 :: x.2.groups, x.2.rest⟩ := by
  have hways : (group (many cs done) next).ways s = (runs cs.holds s).flatMap fun x =>
      (next.ways x.2).map fun u => ⟨x.1 ++ u.taken, x.1 :: u.groups, u.rest⟩ := by
    simp [ways, List.flatMap_assoc]
  rw [hways, head?_flatMap_runs next.ways fun run u => (⟨run ++ u.taken, run :: u.groups, u.rest⟩ : Way)]
  rfl

lemma head?_ways_group_plain (s : Text) (next : Expression) (t : Text) :
    ((group (plain s done) next).ways t).head? = (after? s t).bind fun r => (next.find? r).map fun u =>
      ⟨s ++ u.taken, s :: u.groups, u.rest⟩ := by
  rw [ways, ways_plain]
  cases after? s t with
  | none => rfl
  | some r => simp [ways, find?, List.head?_map]

lemma find?_plain (s : Text) : (plain s done).find? = fun t => (after? s t).map fun r => ⟨s, [], r⟩ := by
  funext t
  rw [find?, ways_plain]
  cases after? s t <;> simp [ways]

lemma find?_ofDelimiters (d : Delimiters) (line : Text) :
    (ofDelimiters d).find? line =
      (d.detect? line).map fun x => ⟨Delimiters.Detection.matched d x, [x.indent, d.opening, x.body], x.rest⟩ := by
  have hbody : (group (many .any done) (plain d.closing done)).find? = fun r =>
      (longestRun? (· ≠ '\n') (after? d.closing) r).map fun x => ⟨x.1 ++ d.closing, [x.1], x.2⟩ := by
    funext r
    rw [find?, head?_ways_group_many, find?_plain, longestRun?_map, Option.map_map]
    rfl
  have hwrapped : (group (plain d.opening done) (group (many .any done) (plain d.closing done))).find? = fun r =>
      (d.wrapped? r).map fun x => ⟨d.opening ++ (x.1 ++ d.closing), [d.opening, x.1], x.2⟩ := by
    funext r
    rw [find?, head?_ways_group_plain, hbody, Delimiters.wrapped?]
    cases after? d.opening r <;> simp [Function.comp_def]
  rw [ofDelimiters, find?, head?_ways_group_many, hwrapped, longestRun?_map, Option.map_map, Delimiters.detect?_eq,
    Option.map_map]
  rfl

end Expression

namespace Delimiters

structure Divides (d : Delimiters) (line w m r : Text) : Prop where
  split : line = w ++ (d.opening ++ (m ++ (d.closing ++ r)))
  blank : Blank w
  newline : '\n' ∉ m

variable {d : Delimiters} {line : Text} {x : Detection}

lemma divides_of_detect? (h : d.detect? line = some x) : d.Divides line x.indent x.body x.rest where
  split := eq_of_detect? h
  blank := blank_indent_of_detect? h
  newline := newline_not_mem_body h

/-- The pattern of delimiters matches a line iff the line divides by them, whatever characters they have. The
division is the one that is detected: it has the longest indentation that there is, and then the longest body. -/
theorem pattern_divides (d : Delimiters) : ∃ e, Expression.read? d.pattern = some e ∧ ∀ line,
    (e.find? line = (d.detect? line).map fun x => ⟨Detection.matched d x, [x.indent, d.opening, x.body], x.rest⟩) ∧
      ((e.find? line).isSome = true ↔ ∃ w m r, d.Divides line w m r) ∧
      ∀ v, e.find? line = some v → ∃ w m r, d.Divides line w m r ∧
        v = ⟨w ++ (d.opening ++ (m ++ d.closing)), [w, d.opening, m], r⟩ ∧
        (∀ w' m' r', d.Divides line w' m' r' → w'.length ≤ w.length) ∧
        ∀ m' r', d.Divides line w m' r' → m'.length ≤ m.length := by
  refine ⟨_, Expression.read?_pattern d, fun line => ?_⟩
  have hfind := Expression.find?_ofDelimiters d line
  refine ⟨hfind, ?_, fun v hv => ?_⟩
  · rw [hfind, Option.isSome_map, ← isCommented, isCommented_iff]
    constructor
    · rintro ⟨w, m, r, hsplit, hw, hm⟩
      exact ⟨w, m, r, hsplit, hw, hm⟩
    · rintro ⟨w, m, r, h⟩
      exact ⟨w, m, r, h.split, h.blank, h.newline⟩
  · rw [hfind] at hv
    obtain ⟨x, hx, rfl⟩ := Option.map_eq_some_iff.mp hv
    refine ⟨x.indent, x.body, x.rest, divides_of_detect? hx, rfl, fun w m r h => ?_, fun m r h => ?_⟩
    · exact indent_longest hx h.split h.blank h.newline
    · exact body_longest_of_indent hx h.split h.newline

example : (Expression.read? (pattern ⟨" (*".toList, ".".toList⟩)).bind (·.find? "   (* a.b.c\n.".toList) =
    some ⟨"   (* a.b.".toList, ["  ".toList, " (*".toList, " a.b".toList], "c\n.".toList⟩ := by decide

end Delimiters
end CommentBlocks
