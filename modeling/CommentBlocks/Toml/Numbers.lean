import CommentBlocks.Toml.Strings
import CommentBlocks.Toml.Value

namespace CommentBlocks.Toml.Numbers

def moreDigits (p : Char → Bool) : Text → Text × Text
  | [] => ([], [])
  | [c] => if p c then ([c], []) else ([], [c])
  | c :: d :: r =>
    if p c then
      let (ds, r) := moreDigits p (d :: r)
      (c :: ds, r)
    else if c = '_' && p d then
      let (ds, r) := moreDigits p r
      (d :: ds, r)
    else ([], c :: d :: r)

def digits? (p : Char → Bool) : Text → Option (Text × Text)
  | [] => none
  | c :: r =>
    if p c then
      let (ds, r) := moreDigits p r
      some (c :: ds, r)
    else none

def decimal? : Text → Option (Text × Text)
  | '0' :: r => some (['0'], r)
  | s => digits? Char.isDigit s

def sign : Text → Bool × Text
  | '-' :: r => (true, r)
  | '+' :: r => (false, r)
  | s => (false, s)

def natOf (base : Nat) (digits : Text) : Nat :=
  digits.foldl (fun n c => base * n + ((Strings.hexValue? c).getD 0)) 0

def integer? (negative : Bool) (n : Nat) : Option Value :=
  let i : Int := if negative then -(n : Int) else n
  if -Int.ofNat (Nat.pow 2 63) ≤ i && i < Int.ofNat (Nat.pow 2 63) then some (.integer i) else none

/-- A number too large is refused only where it is positive. -/
def float? (negative : Bool) (digits : Text) (places : Nat) (exponent : Int) : Option Value :=
  match Binary64.ofDecimal negative (natOf 10 digits) (exponent - places) with
  | .infinite false => none
  | x => some (.float x)

def exponent? : Text → Option (Int × Text)
  | [] => none
  | c :: r =>
    if c = 'e' || c = 'E' then do
      let (negative, r) := sign r
      let (ds, r) ← digits? Char.isDigit r
      let n : Int := natOf 10 ds
      some (if negative then -n else n, r)
    else none

def startsExponent : Text → Bool
  | c :: _ => c = 'e' || c = 'E'
  | [] => false

def decimalNumber? (negative : Bool) (s : Text) : Option (Value × Text) := do
  let (whole, r) ← decimal? s
  match r with
  | '.' :: r =>
    let (fraction, r) ← digits? Char.isDigit r
    let (e, r) ← if startsExponent r then exponent? r else some (0, r)
    some (← float? negative (whole ++ fraction) fraction.length e, r)
  | r =>
    if startsExponent r then
      let (e, r) ← exponent? r
      some (← float? negative whole 0 e, r)
    else some (← integer? negative (natOf 10 whole), r)

def special? (negative : Bool) (s : Text) : Option (Value × Text) :=
  match Text.after? ['i', 'n', 'f'] s, Text.after? ['n', 'a', 'n'] s with
  | some r, _ => some (.float (.infinite negative), r)
  | none, some r => some (.float .nan, r)
  | none, none => none

def based? (base : Nat) (p : Char → Bool) (s : Text) : Option (Value × Text) := do
  let (ds, r) ← digits? p s
  some (← integer? false (natOf base ds), r)

def isOctal (c : Char) : Bool := '0' ≤ c && c ≤ '7'
def isBinary (c : Char) : Bool := c = '0' || c = '1'
def isHex (c : Char) : Bool := (Strings.hexValue? c).isSome

def number? : Text → Option (Value × Text)
  | '0' :: 'x' :: r => based? 16 isHex r
  | '0' :: 'o' :: r => based? 8 isOctal r
  | '0' :: 'b' :: r => based? 2 isBinary r
  | s =>
    let (negative, r) := sign s
    match special? negative r with
    | some found => some found
    | none => decimalNumber? negative r

def fixed? (count : Nat) (s : Text) : Option (Nat × Text) :=
  let ds := s.take count
  if ds.length = count && ds.all Char.isDigit then some (natOf 10 ds, s.drop count) else none

def padded (count n : Nat) : Text :=
  let ds := Nat.toDigits 10 n
  List.replicate (count - ds.length) '0' ++ ds

def daysIn (year month : Nat) : Nat :=
  if month = 2 then
    if year % 4 = 0 && (year % 100 ≠ 0 || year % 400 = 0) then 29 else 28
  else if [4, 6, 9, 11].contains month then 30 else 31

def day? (s : Text) : Option (Text × Text) := do
  let (year, s) ← fixed? 4 s
  let s ← Text.after? ['-'] s
  let (month, s) ← fixed? 2 s
  let s ← Text.after? ['-'] s
  let (day, s) ← fixed? 2 s
  if 1 ≤ month && month ≤ 12 && 1 ≤ day && day ≤ daysIn year month then
    some (padded 4 year ++ ('-' :: (padded 2 month ++ ('-' :: padded 2 day))), s)
  else none

def fraction : Text → Text × Text
  | '.' :: r =>
    let ds := r.takeWhile Char.isDigit
    if ds.isEmpty then ([], '.' :: r)
    else
      let kept := ((ds.take 9).reverse.dropWhile (· = '0')).reverse
      (if kept.isEmpty then [] else '.' :: kept, r.dropWhile Char.isDigit)
  | s => ([], s)

def hourMinute? (s : Text) : Option (Text × Text) := do
  let (hour, s) ← fixed? 2 s
  let s ← Text.after? [':'] s
  let (minute, s) ← fixed? 2 s
  if hour ≤ 23 && minute ≤ 59 then some (padded 2 hour ++ (':' :: padded 2 minute), s) else none

def clock? (s : Text) : Option (Text × Text) := do
  let (start, s) ← hourMinute? s
  let s ← Text.after? [':'] s
  let (second, s) ← fixed? 2 s
  let (part, s) := fraction s
  if second ≤ 60 then some (start ++ (':' :: (padded 2 second ++ part)), s) else none

def offset? : Text → Option (Text × Text)
  | [] => none
  | c :: r =>
    if c = 'Z' || c = 'z' then some (['Z'], r)
    else if c = '+' || c = '-' then do
      let (t, r) ← hourMinute? r
      some ((if t = ['0', '0', ':', '0', '0'] then '+' else c) :: t, r)
    else none

def timeAfterDay? : Text → Option (Text × Text)
  | [] => none
  | c :: r =>
    if c = 'T' || c = 't' || c = ' ' then do
      let (t, r) ← clock? r
      match offset? r with
      | some (o, r) => some ('T' :: (t ++ o), r)
      | none => some ('T' :: t, r)
    else none

def date? (s : Text) : Option (Value × Text) :=
  match day? s with
  | some (d, r) =>
    match timeAfterDay? r with
    | some (t, r) => some (.date (d ++ t), r)
    | none => some (.date d, r)
  | none => (clock? s).map fun (t, r) => (.date t, r)

def truth? (s : Text) : Option (Value × Text) :=
  match Text.after? ['t', 'r', 'u', 'e'] s, Text.after? ['f', 'a', 'l', 's', 'e'] s with
  | some r, _ => some (.boolean true, r)
  | none, some r => some (.boolean false, r)
  | none, none => none

def scalar? (s : Text) : Option (Value × Text) :=
  match Strings.read? s, truth? s, date? s with
  | some (t, r), _, _ => some (.string t, r)
  | none, some found, _ => some found
  | none, none, some found => some found
  | none, none, none => number? s

end CommentBlocks.Toml.Numbers
