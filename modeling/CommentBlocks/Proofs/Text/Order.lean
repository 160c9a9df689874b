import CommentBlocks.Text
import Mathlib.Tactic.Common

/-! The order of texts is the lexicographic one, and it is the order of their UTF-8 bytes: of two characters
the first in the order has the first bytes in the order, and neither has bytes that begin those of the other. -/

namespace CommentBlocks.Text

variable {s t : Text} {a c : Char}

lemma precedes_iff_lt : precedes s t = true ↔ s < t := by
  induction s generalizing t with
  | nil => cases t <;> simp [precedes]
  | cons a s ih =>
    cases t with
    | nil => simp [precedes]
    | cons c t => simp [precedes, List.cons_lt_cons_iff, ih]

def utf8 (s : Text) : List UInt8 := s.flatMap String.utf8EncodeChar

lemma ofNat_lt_ofNat {m n : Nat} (hm : m < 256) (hn : n < 256) : UInt8.ofNat m < UInt8.ofNat n ↔ m < n := by
  rw [UInt8.lt_iff_toNat_lt, UInt8.toNat_ofNat', UInt8.toNat_ofNat', Nat.mod_eq_of_lt hm, Nat.mod_eq_of_lt hn]

lemma ofNat_eq_ofNat {m n : Nat} (hm : m < 256) (hn : n < 256) : UInt8.ofNat m = UInt8.ofNat n ↔ m = n := by
  rw [← UInt8.toNat_inj, UInt8.toNat_ofNat', UInt8.toNat_ofNat', Nat.mod_eq_of_lt hm, Nat.mod_eq_of_lt hn]

lemma utf8EncodeChar_append_lt (h : a < c) (x y : List UInt8) :
    String.utf8EncodeChar a ++ x < String.utf8EncodeChar c ++ y := by
  have hv : a.val.toNat < c.val.toNat := h
  have hc : c.val.toNat < 1114112 := by
    have hvalid := c.valid
    simp only [UInt32.isValidChar, Nat.isValidChar] at hvalid
    omega
  -- each number is taken apart into digits to the base 64
  have hdigits : ∀ n < 1114112,
      n / 64 / 64 = n / 4096 ∧ n / 4096 / 64 = n / 262144 ∧ n / 262144 % 8 = n / 262144 :=
    fun n hn => ⟨Nat.div_div_eq_div_mul n 64 64, Nat.div_div_eq_div_mul n 4096 64, Nat.mod_eq_of_lt (by omega)⟩
  have hm := hdigits a.val.toNat (Nat.lt_trans hv hc)
  have hn := hdigits c.val.toNat hc
  simp only [String.utf8EncodeChar]
  split_ifs <;>
    simp (disch := omega) only [List.cons_append, List.nil_append, List.cons_lt_cons_iff, ofNat_lt_ofNat,
      ofNat_eq_ofNat] <;> omega

lemma utf8_cons (c : Char) (s : Text) : utf8 (c :: s) = String.utf8EncodeChar c ++ utf8 s := List.flatMap_cons

lemma utf8_lt_of_lt (h : s < t) : utf8 s < utf8 t := by
  induction s generalizing t with
  | nil =>
    cases t with
    | nil => exact absurd h (List.lt_irrefl _)
    | cons c t =>
      obtain ⟨b, bs, hb⟩ := List.exists_cons_of_ne_nil (String.utf8EncodeChar_ne_nil (c := c))
      rw [utf8_cons, hb]
      exact List.nil_lt_cons b _
  | cons a s ih =>
    cases t with
    | nil => exact absurd h (List.not_lt_nil _)
    | cons c t =>
      rw [utf8_cons, utf8_cons]
      rcases List.cons_lt_cons_iff.mp h with hlt | ⟨rfl, hlt⟩
      · exact utf8EncodeChar_append_lt hlt _ _
      · exact List.append_left_lt (ih hlt)

end CommentBlocks.Text
