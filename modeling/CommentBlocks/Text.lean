namespace CommentBlocks

abbrev Text := List Char

namespace Text

def cut (sep : Char) : Text → List Text
  | [] => [[]]
  | c :: r =>
    if c = sep then [] :: cut sep r
    else match cut sep r with
      | [] => [[c]]
      | p :: ps => (c :: p) :: ps

def glue (sep : Text) : List Text → Text
  | [] => []
  | [p] => p
  | p :: q :: ps => p ++ (sep ++ glue sep (q :: ps))

def after? : (opening s : Text) → Option Text
  | [], s => some s
  | _ :: _, [] => none
  | a :: as, c :: cs => if a = c then after? as cs else none

/-- The longest run of `p` after which `read` succeeds, with what `read` made of the rest. -/
def longestRun? {α : Type} (p : Char → Bool) (read : Text → Option α) : Text → Option (Text × α)
  | [] => (read []).map ([], ·)
  | c :: r =>
    match if p c then longestRun? p read r else none with
    | some (run, x) => some (c :: run, x)
    | none => (read (c :: r)).map ([], ·)

def firstPlace? {α : Type} (read : Text → Option α) : Text → Option (Text × α)
  | [] => (read []).map ([], ·)
  | c :: r =>
    match read (c :: r) with
    | some x => some ([], x)
    | none => (firstPlace? read r).map fun (before, x) => (c :: before, x)

def precedes : Text → Text → Bool
  | _, [] => false
  | [], _ :: _ => true
  | a :: as, c :: cs => a < c || (a = c && precedes as cs)

theorem cut_ne_nil (sep : Char) (s : Text) : cut sep s ≠ [] := by
  cases s with
  | nil => simp [cut]
  | cons c r =>
    rw [cut]
    split
    · simp
    · split <;> simp

theorem cut_cons_sep (sep : Char) (r : Text) : cut sep (sep :: r) = [] :: cut sep r := by
  simp [cut]

theorem cut_cons_of_ne {sep c : Char} (h : c ≠ sep) (r : Text) :
    ∃ p ps, cut sep r = p :: ps ∧ cut sep (c :: r) = (c :: p) :: ps := by
  cases hr : cut sep r with
  | nil => exact absurd hr (cut_ne_nil sep r)
  | cons p ps => exact ⟨p, ps, rfl, by simp [cut, h, hr]⟩

theorem glue_cons_cons (sep p q : Text) (ps : List Text) :
    glue sep (p :: q :: ps) = p ++ (sep ++ glue sep (q :: ps)) := rfl

theorem glue_cut (sep : Char) (s : Text) : glue [sep] (cut sep s) = s := by
  induction s with
  | nil => rfl
  | cons c r ih =>
    by_cases h : c = sep
    · subst h
      rw [cut_cons_sep]
      cases hr : cut c r with
      | nil => exact absurd hr (cut_ne_nil c r)
      | cons p ps => rw [glue_cons_cons, ← hr, ih]; rfl
    · obtain ⟨p, ps, hr, hc⟩ := cut_cons_of_ne h r
      rw [hc]
      rw [hr] at ih
      cases ps with
      | nil => simpa [glue] using ih
      | cons q qs => rw [glue_cons_cons] at ih ⊢; rw [List.cons_append, ih]

theorem sep_not_mem_of_mem_cut {sep : Char} {s p : Text} (h : p ∈ cut sep s) : sep ∉ p := by
  induction s generalizing p with
  | nil => simp only [cut, List.mem_singleton] at h; simp [h]
  | cons c r ih =>
    by_cases hc : c = sep
    · subst hc
      rw [cut_cons_sep, List.mem_cons] at h
      rcases h with rfl | h
      · simp
      · exact ih h
    · obtain ⟨q, qs, hr, he⟩ := cut_cons_of_ne hc r
      rw [he, List.mem_cons] at h
      rcases h with rfl | h
      · have := ih (p := q) (by rw [hr]; exact List.mem_cons_self)
        simp [this, Ne.symm hc]
      · exact ih (by rw [hr]; exact List.mem_cons_of_mem _ h)

theorem cut_of_not_mem {sep : Char} {s : Text} (h : sep ∉ s) : cut sep s = [s] := by
  induction s with
  | nil => rfl
  | cons c r ih =>
    rw [List.mem_cons, not_or] at h
    have hr := ih h.2
    simp [cut, hr, Ne.symm h.1]

theorem cut_append_sep {sep : Char} {p : Text} (h : sep ∉ p) (r : Text) :
    cut sep (p ++ sep :: r) = p :: cut sep r := by
  induction p with
  | nil => exact cut_cons_sep sep r
  | cons c p ih =>
    rw [List.mem_cons, not_or] at h
    have := ih h.2
    simp [cut, this, Ne.symm h.1]

theorem cut_glue {sep : Char} {ps : List Text} (hne : ps ≠ []) (h : ∀ p ∈ ps, sep ∉ p) :
    cut sep (glue [sep] ps) = ps := by
  match ps with
  | [] => exact absurd rfl hne
  | [p] => exact cut_of_not_mem (h p List.mem_cons_self)
  | p :: q :: qs =>
    rw [glue_cons_cons, List.singleton_append, cut_append_sep (h p List.mem_cons_self),
      cut_glue (by simp) fun x hx => h x (List.mem_cons_of_mem _ hx)]

theorem after?_eq_some_iff {opening s r : Text} : after? opening s = some r ↔ s = opening ++ r := by
  induction opening generalizing s with
  | nil => simp [after?]
  | cons a as ih =>
    cases s with
    | nil => simp [after?]
    | cons c cs =>
      by_cases h : a = c
      · subst h; simp [after?, ih]
      · simp [after?, h, Ne.symm h]

theorem after?_append (opening r : Text) : after? opening (opening ++ r) = some r :=
  after?_eq_some_iff.2 rfl

end Text
end CommentBlocks
