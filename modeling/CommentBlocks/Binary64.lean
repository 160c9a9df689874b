import CommentBlocks.Text

/-!
Double-precision numbers: the one nearest to a decimal, and the shortest decimal that is read back as the
same number. All arithmetic is exact, on fractions of natural numbers.
-/

namespace CommentBlocks

inductive Binary64 where
  | finite (negative : Bool) (mantissa : Nat) (exponent : Int)
  | infinite (negative : Bool)
  | nan
  deriving DecidableEq, Repr

namespace Binary64

structure Ratio where
  num : Nat
  den : Nat
  deriving DecidableEq, Repr

namespace Ratio

/-- `r * base ^ exponent` -/
def scale (r : Ratio) (base : Nat) (exponent : Int) : Ratio :=
  let factor := Nat.pow base exponent.natAbs
  if exponent < 0 then ⟨r.num, r.den * factor⟩ else ⟨r.num * factor, r.den⟩

def lt (r s : Ratio) : Bool := r.num * s.den < s.num * r.den

def le (r s : Ratio) : Bool := r.num * s.den ≤ s.num * r.den

def floor (r : Ratio) : Nat := r.num / r.den

/-- The nearest whole number, the even one of two. -/
def round (r : Ratio) : Nat :=
  let k := r.num / r.den
  let twice := 2 * (r.num % r.den)
  if r.den < twice || (twice == r.den && k % 2 == 1) then k + 1 else k

end Ratio

def leastExponent : Int := -1074
def greatestExponent : Int := 971

def nearest (negative : Bool) (r : Ratio) : Binary64 :=
  let magnitude : Int := (Nat.log2 r.num : Int) - Nat.log2 r.den
  let low := max (magnitude - 53) leastExponent
  let exponent := if (r.scale 2 (-low)).floor < Nat.pow 2 53 then low else low + 1
  let mantissa := (r.scale 2 (-exponent)).round
  if mantissa = Nat.pow 2 53 then
    if exponent < greatestExponent then finite negative (Nat.pow 2 52) (exponent + 1) else infinite negative
  else if exponent ≤ greatestExponent then finite negative mantissa exponent
  else infinite negative

def ofDecimal (negative : Bool) (digits : Nat) (exponent : Int) : Binary64 :=
  let magnitude := exponent + (Nat.toDigits 10 digits).length
  if digits = 0 || magnitude < -330 then finite negative 0 leastExponent
  else if magnitude > 310 then infinite negative
  else nearest negative (Ratio.scale ⟨digits, 1⟩ 10 exponent)

def decimalMagnitude (r : Ratio) : Int :=
  match (List.range 660).find? fun (i : Nat) => r.lt (Ratio.scale ⟨1, 1⟩ 10 ((i : Int) - 330)) with
  | some i => (i : Int) - 330
  | none => 330

/-- The decimal of `count` digits nearest to `value`, as digits and exponent, if it lies in the interval
between `low` and `high`. Of two equally near ones it is the greater. -/
def onGrid? (value low high : Ratio) (closed : Bool) (magnitude : Int) (count : Nat) : Option (Nat × Int) :=
  let step := magnitude - count
  let below := (value.scale 10 (-step)).floor
  let lies (d : Nat) : Bool :=
    let x := Ratio.scale ⟨d, 1⟩ 10 step
    if closed then low.le x && x.le high else low.lt x && x.lt high
  let nearerBelow : Bool :=
    (value.scale 10 (-step)).lt ⟨2 * below + 1, 2⟩
  let written (d : Nat) : Nat × Int := if d = Nat.pow 10 count then (1, step + count) else (d, step)
  if lies below && (nearerBelow || !lies (below + 1)) then some (written below)
  else if lies (below + 1) then some (written (below + 1))
  else none

def shortest (mantissa : Nat) (exponent : Int) : Nat × Int :=
  let at4 (n : Nat) : Ratio := Ratio.scale ⟨n, 4⟩ 2 exponent
  let value := at4 (4 * mantissa)
  let low := at4 (4 * mantissa - if mantissa = Nat.pow 2 52 ∧ leastExponent < exponent then 1 else 2)
  let high := at4 (4 * mantissa + 2)
  let magnitude := decimalMagnitude value
  match ((List.range 17).map (· + 1)).findSome? (onGrid? value low high (mantissa % 2 == 0) magnitude) with
  | some d => d
  | none => (mantissa, exponent)

/-- Digits and exponent without an exponent part, with at least one digit on each side of the point. -/
def positional (digits : Nat) (exponent : Int) : Text :=
  let ds := Nat.toDigits 10 digits
  if 0 ≤ exponent then ds ++ (List.replicate exponent.natAbs '0' ++ ['.', '0'])
  else
    let places := exponent.natAbs
    let ds := List.replicate (places + 1 - ds.length) '0' ++ ds
    ds.take (ds.length - places) ++ ('.' :: ds.drop (ds.length - places))

def text : Binary64 → Text
  | nan => ['N', 'a', 'N']
  | infinite negative => (if negative then ['-'] else []) ++ ['i', 'n', 'f']
  | finite negative mantissa exponent =>
    (if negative then ['-'] else []) ++
      if mantissa = 0 then ['0', '.', '0']
      else
        let (d, e) := shortest mantissa exponent
        positional d e

end Binary64
end CommentBlocks
