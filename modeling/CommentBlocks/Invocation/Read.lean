import CommentBlocks.Invocation

/-!
Reading a command line. Options stand before the command or after it, and each level knows its own. A value
that stands in a word of its own is checked when the next known word is reached or the level ends, so a
mistake in the spelling of an option that follows it is told first. A value written together with its option
is checked at once.
-/

namespace CommentBlocks.Invocation

inductive Flag where
  | verbose
  | removeDirectives
  | keepDirectives
  | dryRun
  | check
  deriving DecidableEq, Repr

inductive Valued where
  | config
  | outDirectory
  | padding
  deriving DecidableEq, Repr

inductive Switch where
  | flag (f : Flag)
  | valued (v : Valued)
  | stop (s : Stop)
  deriving DecidableEq, Repr

structure Spelling where
  long : Text
  short : Option Char := none
  switch : Switch
  deriving DecidableEq, Repr

inductive Verb where
  | process
  | run
  | targets
  deriving DecidableEq, Repr

namespace Verb

def name : Verb → Text
  | process => "process".toList
  | run => "run".toList
  | targets => "targets".toList

def all : List Verb := [process, run, targets]

def ofName? (s : Text) : Option Verb := all.find? fun v => v.name = s

end Verb

abbrev Level := Option Verb

namespace Level

def shared : List Spelling :=
  [⟨"verbose".toList, some 'v', .flag .verbose⟩, ⟨"config".toList, some 'c', .valued .config⟩,
    ⟨"help".toList, some 'h', .stop .help⟩]

def processing : List Spelling :=
  [⟨"remove-directives".toList, none, .flag .removeDirectives⟩,
    ⟨"keep-directives".toList, none, .flag .keepDirectives⟩,
    ⟨"padding".toList, none, .valued .padding⟩,
    ⟨"dry-run".toList, none, .flag .dryRun⟩,
    ⟨"check".toList, none, .flag .check⟩]

def spellings : Level → List Spelling
  | none => ⟨"version".toList, some 'V', .stop .version⟩ :: shared
  | some .process => ⟨"out-dir".toList, some 'o', .valued .outDirectory⟩ :: (processing ++ shared)
  | some .run => processing ++ shared
  | some .targets => shared

def long? (l : Level) (name : Text) : Option Switch :=
  ((spellings l).find? fun x => x.long = name).map Spelling.switch

def short? (l : Level) (c : Char) : Option Switch :=
  ((spellings l).find? fun x => x.short = some c).map Spelling.switch

end Level

inductive Pending where
  | none
  | awaiting (v : Valued)
  | value (v : Valued) (text : Text)
  | words (ws : List Text)
  deriving DecidableEq, Repr

/-- A level as far as it has been read. After `--` only words are read. -/
structure Draft where
  flags : List Flag := []
  config : Option Path := none
  outDirectory : Option Path := none
  padding : Option Nat := none
  words : List Text := []
  pending : Pending := .none
  wordsOnly : Bool := false
  deriving DecidableEq, Repr

def number? (s : Text) : Option Nat :=
  let digits := match s with
    | '+' :: r => r
    | s => s
  if digits.isEmpty || !digits.all Char.isDigit then none
  else
    let n := digits.foldl (fun n c => 10 * n + (c.toNat - '0'.toNat)) 0
    if n < Nat.pow 2 64 then some n else none

def path (s : Text) : Except Stop Path := if s.isEmpty then .error .missingValue else .ok ⟨s⟩

namespace Draft

def giveFlag (d : Draft) (f : Flag) : Except Stop Draft :=
  if d.flags.contains f then .error .conflict else .ok { d with flags := f :: d.flags }

def giveValue (d : Draft) (v : Valued) (s : Text) : Except Stop Draft :=
  match v with
  | .config => do
    if d.config.isSome then throw .conflict
    return { d with config := some (← path s) }
  | .outDirectory => do
    if d.outDirectory.isSome then throw .conflict
    return { d with outDirectory := some (← path s) }
  | .padding =>
    if d.padding.isSome then .error .conflict
    else
      match number? s with
      | some n => .ok { d with padding := some n }
      | none => .error .badNumber

def giveWords (l : Level) (d : Draft) (ws : List Text) : Except Stop Draft :=
  if l = some .process && ws.contains [] then .error .missingValue
  else .ok { d with words := d.words ++ ws }

def settle (l : Level) (d : Draft) : Except Stop Draft :=
  let rest := { d with pending := .none }
  match d.pending with
  | .none => .ok rest
  | .awaiting _ => .error .missingValue
  | .value v s => rest.giveValue v s
  | .words ws => giveWords l rest ws

def isAwaiting (d : Draft) : Bool :=
  match d.pending with
  | .awaiting _ => true
  | _ => false

def give (l : Level) (d : Draft) (s : Switch) (attached : Option Text) : Except Stop Draft := do
  let d ← d.settle l
  match s, attached with
  | .stop s, _ => throw s
  | .flag f, _ => d.giveFlag f
  | .valued v, some s => d.giveValue v s
  | .valued v, none => return { d with pending := .awaiting v }

/-- What follows `--`: a name, and perhaps `=` and a value. Only an option takes a value. -/
def readLong (l : Level) (d : Draft) (s : Text) : Except Stop Draft :=
  let name := s.takeWhile (· ≠ '=')
  let attached := match s.dropWhile (· ≠ '=') with
    | [] => none
    | _ :: value => some value
  match Level.long? l name with
  | none => .error .unknownArgument
  | some (.valued v) => d.give l (.valued v) attached
  | some s => if attached.isSome then .error .surplusValue else d.give l s none

/-- Letters after a dash. The letter of an option takes all that follows it as its value. -/
def readShort (l : Level) (d : Draft) : Text → Except Stop Draft
  | [] => .ok d
  | c :: r =>
    match Level.short? l c with
    | none => .error .unknownArgument
    | some (.valued v) =>
      d.give l (.valued v) (match r with
        | [] => none
        | '=' :: value => some value
        | value => some value)
    | some s => do readShort l (← d.give l s none) r

def readWord (l : Level) (d : Draft) (s : Text) : Except Stop Draft :=
  match l with
  | none =>
    if d.wordsOnly && (s = "help".toList || (Verb.ofName? s).isSome) then .error .unknownArgument
    else .error .unknownCommand
  | some .targets => .error .unknownArgument
  | some _ =>
    match d.pending with
    | .words ws => .ok { d with pending := .words (ws ++ [s]) }
    | _ => do return { (← d.settle l) with pending := .words [s] }

def read (l : Level) (d : Draft) (s : Text) : Except Stop Draft :=
  if d.wordsOnly then d.readWord l s
  else
    match s, d.pending with
    | ['-', '-'], _ => .ok { d with wordsOnly := true }
    | '-' :: '-' :: name, _ => d.readLong l name
    | '-' :: c :: r, _ => d.readShort l (c :: r)
    | s, .awaiting v => .ok { d with pending := .value v s }
    | s, _ => d.readWord l s

def gives (d : Draft) (f : Flag) : Bool := d.flags.contains f

/-- The end of a level. `fallback` stands in for a config that is not given here, and has to be a path too. -/
def finish (l : Level) (fallback : Option Text) (d : Draft) : Except Stop Draft := do
  let d ← d.settle l
  match d.config, fallback with
  | none, some s => let _ ← path s
  | _, _ => pure ()
  if d.gives .removeDirectives && d.gives .keepDirectives then throw .conflict
  if d.gives .dryRun && d.gives .check then throw .conflict
  if l = some .process && d.words.isEmpty then throw .missingFiles
  return d

def overlay (d : Draft) : Overlay :=
  { removeDirectiveLines :=
      if d.gives .removeDirectives then some true
      else if d.gives .keepDirectives then some false
      else none
    padding := d.padding }

def mode (d : Draft) : Mode :=
  if d.gives .dryRun then .dryRun else if d.gives .check then .check else .write

def command (d : Draft) : Verb → Command
  | .process => .process (d.words.map Path.mk) d.outDirectory d.overlay d.mode
  | .run => .run d.words d.overlay d.mode
  | .targets => .targets

end Draft

def helpOn : List Text → Stop
  | [] => .help
  | [name] => if name = "help".toList || (Verb.ofName? name).isSome then .help else .unknownCommand
  | _ => .unknownCommand

def readTop : Draft → List Text → Except Stop (Draft × Option (Verb × List Text))
  | d, [] => .ok (d, none)
  | d, s :: rest =>
    let name? := if d.wordsOnly || d.isAwaiting then none else some s
    if name? = some "help".toList then .error (helpOn rest)
    else
      match name?.bind Verb.ofName? with
      | some v => .ok (d, some (v, rest))
      | none => do readTop (← d.read none s) rest

def readLevel (v : Verb) (fallback : Option Text) (args : List Text) : Except Stop Draft := do
  (← args.foldlM (Draft.read (some v)) {}).finish (some v) fallback

/-- Reads the arguments. `fallback` is the settings file to use if the arguments name none. The level of the
command is checked before the one above it. -/
def read (fallback : Option Text) (args : List Text) : Except Stop Invocation := do
  let (top, found) ← readTop {} args
  let below ← found.mapM fun (v, rest) => do return (v, ← readLevel v fallback rest)
  let top ← top.finish none fallback
  let sub := below.map Prod.snd
  return {
    verbose := top.gives .verbose || sub.any fun d => d.gives .verbose
    config := ((sub.bind Draft.config <|> top.config) <|> fallback.map Path.mk).getD defaultConfig
    command := below.map fun (v, d) => d.command v }

end CommentBlocks.Invocation
