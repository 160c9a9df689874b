import CommentBlocks.Text

/-!
The lines of a content and its line break. The first line feed decides the convention; each line but the
last gives up one carriage return at its end; joining writes the convention between all lines.
-/

namespace CommentBlocks

inductive LineEnding where
  | lf
  | crlf
  deriving DecidableEq, Repr, Inhabited

namespace LineEnding

def text : LineEnding → Text
  | lf => ['\n']
  | crlf => ['\r', '\n']

def detect : Text → LineEnding
  | [] => lf
  | '\n' :: _ => lf
  | '\r' :: '\n' :: _ => crlf
  | _ :: r => detect r

theorem detect_append_of_not_mem {s : Text} (h : '\n' ∉ s) (hr : s.getLast? ≠ some '\r') (r : Text) :
    detect (s ++ '\n' :: r) = lf := by
  induction s with
  | nil => simp [detect]
  | cons c s ih =>
    rw [List.mem_cons, not_or] at h
    cases s with
    | nil =>
      have hc : c ≠ '\r' := by simpa using hr
      rw [List.singleton_append, detect.eq_4] <;> simp_all [detect, eq_comm]
    | cons d s =>
      have hd : d ≠ '\n' := fun e => h.2 (by simp [e])
      have ih := ih h.2 (by simpa using hr)
      rw [List.cons_append, detect.eq_4] <;> simp_all [eq_comm]

theorem detect_append_return {s : Text} (h : '\n' ∉ s) (r : Text) :
    detect (s ++ '\r' :: '\n' :: r) = crlf := by
  induction s with
  | nil => simp [detect]
  | cons c s ih =>
    rw [List.mem_cons, not_or] at h
    have ih := ih h.2
    cases s with
    | nil => rw [List.singleton_append, detect.eq_4] <;> simp_all [eq_comm]
    | cons d s =>
      have hd : d ≠ '\n' := fun e => h.2 (by simp [e])
      rw [List.cons_append, detect.eq_4] <;> simp_all [eq_comm]

end LineEnding

namespace Lines

def dropReturn (line : Text) : Text :=
  if line.getLast? = some '\r' then line.dropLast else line

def dropReturns : List Text → List Text
  | [] => []
  | [last] => [last]
  | line :: next :: rest => dropReturn line :: dropReturns (next :: rest)

def split (content : Text) : List Text := dropReturns (Text.cut '\n' content)

def join (ending : LineEnding) (lines : List Text) : Text := Text.glue ending.text lines

theorem length_dropReturns (lines : List Text) : (dropReturns lines).length = lines.length := by
  induction lines with
  | nil => rfl
  | cons line rest ih =>
    cases rest with
    | nil => rfl
    | cons next rest => simpa [dropReturns] using ih

theorem split_ne_nil (content : Text) : split content ≠ [] := by
  intro h
  have hl := length_dropReturns (Text.cut '\n' content)
  rw [← split, h] at hl
  exact Text.cut_ne_nil '\n' content (List.length_eq_zero_iff.1 hl.symm)

theorem mem_of_mem_dropReturn {c : Char} {line : Text} (h : c ∈ dropReturn line) : c ∈ line := by
  rw [dropReturn] at h
  split at h
  · exact (List.dropLast_sublist line).subset h
  · exact h

theorem not_mem_dropReturns {c : Char} {lines : List Text} (h : ∀ l ∈ lines, c ∉ l) :
    ∀ l ∈ dropReturns lines, c ∉ l := by
  induction lines with
  | nil => simp [dropReturns]
  | cons line rest ih =>
    cases rest with
    | nil => simpa [dropReturns] using h
    | cons next rest =>
      intro l hl
      rw [dropReturns, List.mem_cons] at hl
      rcases hl with rfl | hl
      · exact fun hc => h line List.mem_cons_self (mem_of_mem_dropReturn hc)
      · exact ih (fun l hl => h l (List.mem_cons_of_mem _ hl)) l hl

theorem newline_not_mem_of_mem_split {content line : Text} (h : line ∈ split content) : '\n' ∉ line :=
  not_mem_dropReturns (fun _ hp => Text.sep_not_mem_of_mem_cut hp) line h

end Lines
end CommentBlocks
