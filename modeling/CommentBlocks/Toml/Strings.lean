import CommentBlocks.Text

/-!
The four kinds of strings. Each reader starts after the opening quotes and answers with the content and
what follows the closing quotes. In a string of several lines every line break counts as a line feed.
-/

namespace CommentBlocks.Toml

/-- What a comment or a string of one line may hold, quotes and backslashes apart. -/
def isInline (c : Char) : Bool := c = '\t' || (0x20 ≤ c.toNat && c.toNat ≠ 0x7F)

def isLayout (c : Char) : Bool := c = ' ' || c = '\t'

def skipLayout (s : Text) : Text := s.dropWhile isLayout

def afterNewline? : Text → Option Text
  | '\n' :: r => some r
  | '\r' :: '\n' :: r => some r
  | _ => none

namespace Strings

def quote : Char := Char.ofNat 0x22
def apostrophe : Char := Char.ofNat 0x27

def hexValue? (c : Char) : Option Nat :=
  if c.isDigit then some (c.toNat - '0'.toNat)
  else if 'a' ≤ c ∧ c ≤ 'f' then some (c.toNat - 'a'.toNat + 10)
  else if 'A' ≤ c ∧ c ≤ 'F' then some (c.toNat - 'A'.toNat + 10)
  else none

def character? (code : Nat) : Option Char :=
  if code.isValidChar then some (Char.ofNat code) else none

def hexEscape? : (count code : Nat) → Text → Option (Char × Text)
  | 0, code, s => (character? code).map (·, s)
  | _ + 1, _, [] => none
  | count + 1, code, c :: r => do hexEscape? count (16 * code + (← hexValue? c)) r

def escape? : Text → Option (Char × Text)
  | 'b' :: r => some (Char.ofNat 8, r)
  | 't' :: r => some ('\t', r)
  | 'n' :: r => some ('\n', r)
  | 'f' :: r => some (Char.ofNat 12, r)
  | 'r' :: r => some ('\r', r)
  | '\\' :: r => some ('\\', r)
  | 'u' :: r => hexEscape? 4 0 r
  | 'U' :: r => hexEscape? 8 0 r
  | c :: r => if c = quote then some (quote, r) else none
  | [] => none

def basicFrom : Nat → Text → Option (Text × Text)
  | 0, _ => none
  | _ + 1, [] => none
  | n + 1, c :: r =>
    if c = quote then some ([], r)
    else if c = '\\' then do
      let (x, r) ← escape? r
      let (xs, r) ← basicFrom n r
      some (x :: xs, r)
    else if isInline c then do
      let (xs, r) ← basicFrom n r
      some (c :: xs, r)
    else none

def basic? (s : Text) : Option (Text × Text) := basicFrom s.length s

def literal? : Text → Option (Text × Text)
  | [] => none
  | c :: r =>
    if c = apostrophe then some ([], r)
    else if isInline c then (literal? r).map fun (xs, r) => (c :: xs, r)
    else none

/-- At three quotes: up to two more belong to the content, and the last three close the string. -/
def closing? (q : Char) (s : Text) : Option (Text × Text) :=
  if s.take 5 = List.replicate 5 q then some ([q, q], s.drop 5)
  else if s.take 4 = List.replicate 4 q then some ([q], s.drop 4)
  else if s.take 3 = List.replicate 3 q then some ([], s.drop 3)
  else none

def skipLines : Text → Text
  | [] => []
  | '\r' :: '\n' :: r => skipLines r
  | c :: r => if isLayout c || c = '\n' then skipLines r else c :: r

def multilineBasicFrom : Nat → Text → Option (Text × Text)
  | 0, _ => none
  | n + 1, s =>
    match closing? quote s, afterNewline? s with
    | some found, _ => some found
    | none, some r => (multilineBasicFrom n r).map fun (xs, r) => ('\n' :: xs, r)
    | none, none =>
      match s with
      | [] => none
      | '\\' :: r =>
        if (afterNewline? (skipLayout r)).isSome then multilineBasicFrom n (skipLines r)
        else do
          let (x, r) ← escape? r
          let (xs, r) ← multilineBasicFrom n r
          some (x :: xs, r)
      | c :: r => if isInline c then (multilineBasicFrom n r).map fun (xs, r) => (c :: xs, r) else none

def multilineLiteralFrom : Nat → Text → Option (Text × Text)
  | 0, _ => none
  | n + 1, s =>
    match closing? apostrophe s, afterNewline? s with
    | some found, _ => some found
    | none, some r => (multilineLiteralFrom n r).map fun (xs, r) => ('\n' :: xs, r)
    | none, none =>
      match s with
      | [] => none
      | c :: r => if isInline c then (multilineLiteralFrom n r).map fun (xs, r) => (c :: xs, r) else none

def withoutFirstNewline (s : Text) : Text := (afterNewline? s).getD s

def multilineBasic? (s : Text) : Option (Text × Text) :=
  multilineBasicFrom (s.length + 1) (withoutFirstNewline s)

def multilineLiteral? (s : Text) : Option (Text × Text) :=
  multilineLiteralFrom (s.length + 1) (withoutFirstNewline s)

def read? (s : Text) : Option (Text × Text) :=
  match s with
  | [] => none
  | c :: r =>
    if c = quote then
      if r.take 2 = [quote, quote] then multilineBasic? (r.drop 2) else basic? r
    else if c = apostrophe then
      if r.take 2 = [apostrophe, apostrophe] then multilineLiteral? (r.drop 2) else literal? r
    else none

end Strings
end CommentBlocks.Toml
