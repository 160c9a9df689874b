import CommentBlocks.Text.Ranges

/-!
Blanks: the 25 characters of the Unicode property White_Space, and what is left of a text without the
blanks at its ends.
-/

namespace CommentBlocks.Text

def blankRanges : Ranges :=
  [(0x9, 0xD), (0x20, 0x20), (0x85, 0x85), (0xA0, 0xA0), (0x1680, 0x1680), (0x2000, 0x200A),
   (0x2028, 0x2029), (0x202F, 0x202F), (0x205F, 0x205F), (0x3000, 0x3000)]

def isBlank (c : Char) : Bool := blankRanges.holds c

def indent (s : Text) : Text := s.takeWhile isBlank

def trimStart (s : Text) : Text := s.dropWhile isBlank

def trimEnd (s : Text) : Text := (s.reverse.dropWhile isBlank).reverse

def trim (s : Text) : Text := trimEnd (trimStart s)

def squash (s : Text) : Text := s.filter fun c => !isBlank c

theorem indent_append_trimStart (s : Text) : indent s ++ trimStart s = s :=
  List.takeWhile_append_dropWhile

theorem squash_append (s t : Text) : squash (s ++ t) = squash s ++ squash t :=
  List.filter_append ..

theorem squash_reverse (s : Text) : squash s.reverse = (squash s).reverse := by
  simp [squash]

theorem squash_trimStart (s : Text) : squash (trimStart s) = squash s := by
  induction s with
  | nil => rfl
  | cons c r ih =>
    by_cases h : isBlank c = true
    · simpa [trimStart, squash, h] using ih
    · simp [trimStart, h]

theorem squash_trimEnd (s : Text) : squash (trimEnd s) = squash s := by
  have h := squash_trimStart s.reverse
  rw [trimStart] at h
  rw [trimEnd, squash_reverse, h, squash_reverse, List.reverse_reverse]

theorem squash_trim (s : Text) : squash (trim s) = squash s := by
  rw [trim, squash_trimEnd, squash_trimStart]

end CommentBlocks.Text
