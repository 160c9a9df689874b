import CommentBlocks.Text

/-!
Patterns of names: `?` stands for a character, `*` for any characters, a class in brackets for one of its
characters, and `**`, as a component of its own, for directories in any number.
-/

namespace CommentBlocks.Glob

structure Interval where
  first : Char
  last : Char
  deriving DecidableEq, Repr

def Interval.holds (i : Interval) (c : Char) : Bool := i.first ≤ c && c ≤ i.last

inductive Token where
  | char (c : Char)
  | anyChar
  | anyText
  | directories
  | within (intervals : List Interval)
  | except (intervals : List Interval)
  deriving DecidableEq, Repr

def Token.accepts : Token → Char → Bool
  | char a, c => a = c
  | anyChar, _ => true
  | within is, c => is.any fun i => i.holds c
  | except is, c => !is.any fun i => i.holds c
  | _, _ => false

inductive Problem where
  | wildcards
  | recursive
  | range
  deriving DecidableEq, Repr

def Problem.text : Problem → String
  | wildcards => "wildcards are either regular `*` or recursive `**`"
  | recursive => "recursive wildcards must form a single path component"
  | range => "invalid range pattern"

structure PatternError where
  position : Nat
  problem : Problem
  deriving DecidableEq, Repr

def PatternError.message (e : PatternError) : String :=
  "Pattern syntax error near position " ++ toString e.position ++ ": " ++ e.problem.text

def intervals : Text → List Interval
  | a :: '-' :: b :: r => ⟨a, b⟩ :: intervals r
  | a :: r => ⟨a, a⟩ :: intervals r
  | [] => []

/-- A class after its opening bracket: whether it is negated, what it lists, and what follows it. The first
character listed may be a closing bracket. -/
def class? : Text → Option (Bool × Text × Text)
  | '!' :: c :: r => (upTo r).map fun (cs, r) => (true, c :: cs, r)
  | ['!'] => none
  | c :: r => (upTo r).map fun (cs, r) => (false, c :: cs, r)
  | [] => none
where
  upTo : Text → Option (Text × Text)
    | [] => none
    | ']' :: r => some ([], r)
    | c :: r => (upTo r).map fun (cs, r) => (c :: cs, r)

/-- The tokens of a pattern from `position` on, `before` being the character there before it. There are at
most as many steps as characters. -/
def tokensFrom : (steps position : Nat) → (before : Option Char) → Text → Except PatternError (List Token)
  | 0, _, _, _ => .ok []
  | _ + 1, _, _, [] => .ok []
  | n + 1, i, before, '*' :: r =>
    let stars := (r.takeWhile (· = '*')).length + 1
    let r := r.dropWhile (· = '*')
    if stars = 1 then do return .anyText :: (← tokensFrom n (i + 1) (some '*') r)
    else if stars > 2 then .error ⟨i + 2, .wildcards⟩
    else if before.isSome && before ≠ some '/' then .error ⟨i - 1, .recursive⟩
    else
      match r with
      | [] => .ok [.directories]
      | '/' :: r => do return .directories :: (← tokensFrom n (i + 3) (some '/') r)
      | _ :: _ => .error ⟨i + 2, .recursive⟩
  | n + 1, i, _, '[' :: r =>
    match class? r with
    | none => .error ⟨i, .range⟩
    | some (negated, listed, rest) => do
      let token := if negated then .except (intervals listed) else .within (intervals listed)
      return token :: (← tokensFrom n (i + 1 + (r.length - rest.length)) (some ']') rest)
  | n + 1, i, _, '?' :: r => do return .anyChar :: (← tokensFrom n (i + 1) (some '?') r)
  | n + 1, i, _, c :: r => do return .char c :: (← tokensFrom n (i + 1) (some c) r)

def tokens (pattern : Text) : Except PatternError (List Token) := tokensFrom pattern.length 0 none pattern

def accepts : List Token → Text → Bool
  | [], s => s.isEmpty
  | .anyText :: ts, s => (List.range (s.length + 1)).any fun i => accepts ts (s.drop i)
  | t :: ts, c :: r => t.accepts c && accepts ts r
  | _ :: _, [] => false

def metaChars : List Char := ['?', '*', '[', ']']

def escape (s : Text) : Text := s.flatMap fun c => if metaChars.contains c then ['[', c, ']'] else [c]

end CommentBlocks.Glob
