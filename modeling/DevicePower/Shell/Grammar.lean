import DevicePower.Text.Numeral

/-!
# Command lines

A command line is read against a grammar of commands within commands. Every command has options,
arguments by position, and commands of its own. A word that starts with two dashes is an option's
long name, with its value after `=` or in the next word; a word that starts with one is a row of
short names, the last of which may have its value behind it. After a lone `--` every word is an
argument.

Words are read from left to right. The value of an option in a word of its own, and an argument, are
checked only when the next option or argument of the same command comes, or at the end of that
command's words; so a request for help further on may come before the complaint about a bad value.
-/

namespace DevicePower.Shell

/-- What a value has to be. -/
inductive ValueKind where
  | text
  /-- A path, which is not empty. -/
  | path
  | choice (names : List String)
  | int32
  | word32
  | word64
deriving DecidableEq

/-- An unsigned 32-bit number, which may have a sign in front as long as it is in range. -/
def word32? (s : String) : Option Nat :=
  match Text.signed? Text.half64 s.toList with
  | some (.ofNat n) => if n < Text.word32 then some n else none
  | _ => none

/-- Whether a value is as it has to be. -/
def ValueKind.accepts : ValueKind → String → Bool
  | text, _ => true
  | path, s => !s.isEmpty
  | choice names, s => names.contains s
  | int32, s => (Text.signed? Text.half32 s.toList).isSome
  | word32, s => (word32? s).isSome
  | word64, s => (Text.unsigned? Text.word64 s.toList).isSome

/-- An option. -/
structure Opt where
  name : String
  short : Option Char := none
  /-- What its value has to be, if it takes one. -/
  value : Option ValueKind := none
  /-- Whether it may stand more than once in one command's words. -/
  isRepeatable : Bool := false
  /-- The environment variable that gives the value where the words do not. -/
  fallback : Option String := none

/-- An argument by position. -/
structure Positional where
  name : String
  kind : ValueKind := .text
  isRequired : Bool := true

/-- A command. -/
structure Grammar where
  name : String
  options : List Opt := []
  positionals : List Positional := []
  commands : List Grammar := []

/-- Why there is nothing to carry out. -/
inductive Stop where
  /-- Help was asked for. -/
  | help
  /-- The version was asked for, of a command with a title. -/
  | version (title : String)
  /-- The words do not fit the grammar. -/
  | misuse
deriving DecidableEq

/-- What a command's words have come to but for the check of the last value. -/
inductive Awaiting where
  | nothing
  /-- The next word is the value of an option. -/
  | value (name : String) (kind : ValueKind)
  /-- This value is still to be checked. -/
  | check (name : String) (kind : ValueKind) (given : String)

/-- The words of one command, as far as they have been read. -/
structure Level where
  /-- The options and arguments, by name, with their values. Flags have no value. -/
  given : List (String × String) := []
  awaiting : Awaiting := .nothing
  /-- How many arguments by position there were. -/
  count : Nat := 0
  /-- Whether all further words are arguments. -/
  isTrailing : Bool := false

namespace Level

/-- Whether an option or argument was given. -/
def has (l : Level) (name : String) : Bool := l.given.any fun g => g.1 == name

/-- Whether the next word is the value of an option. -/
def awaitsValue (l : Level) : Bool :=
  match l.awaiting with
  | .value _ _ => true
  | _ => false

/-- Adds an option or argument. -/
def add (l : Level) (name value : String) : Level :=
  { l with given := l.given ++ [(name, value)], awaiting := .nothing }

/-- Checks what is still to be checked. An option that may stand once may have one value. -/
def settle (l : Level) : Except Stop Level :=
  match l.awaiting with
  | .nothing => .ok l
  | .value _ _ => .error .misuse
  | .check name kind given =>
    if kind.accepts given && !l.has name then .ok (l.add name given) else .error .misuse

/-- Adds a flag. -/
def flag (l : Level) (o : Opt) : Except Stop Level := do
  let l ← l.settle
  if o.isRepeatable || !l.has o.name then return l.add o.name "" else throw .misuse

/-- Adds an option with its value. -/
def option (l : Level) (name : String) (kind : ValueKind) (given : String) :
    Except Stop Level := do
  let l ← l.settle
  { l with awaiting := .check name kind given }.settle

/-- Waits for the value of an option. -/
def await (l : Level) (name : String) (kind : ValueKind) : Except Stop Level := do
  let l ← l.settle
  return { l with awaiting := .value name kind }

/-- Adds an argument by position. -/
def argument (l : Level) (positionals : List Positional) (given : String) :
    Except Stop Level := do
  match positionals[l.count]? with
  | none => throw .misuse
  | some p =>
    let l ← l.settle
    return { l with awaiting := .check p.name p.kind given, count := l.count + 1 }

/-- Ends with a request for help or the version. -/
def request (l : Level) (stop : Stop) : Except Stop Level := do
  let _ ← l.settle
  throw stop

/-- Reads an option by its long name, with the value behind `=` if there is one. -/
def long (l : Level) (title : String) (options : List Opt) (name : String)
    (attached : Option String) : Except Stop Level :=
  match options.find? fun o => o.name == name with
  | some o =>
    match o.value, attached with
    | none, none => l.flag o
    | none, some _ => .error .misuse
    | some kind, none => l.await name kind
    | some kind, some given => l.option name kind given
  | none =>
    match name, attached with
    | "help", none => l.request .help
    | "version", none => l.request (.version title)
    | _, _ => .error .misuse

/-- Reads a row of short names. -/
def shorts (title : String) (options : List Opt) : Level → List Char → Except Stop Level
  | l, [] => .ok l
  | l, c :: rest =>
    match options.find? fun o => o.short == some c with
    | some o =>
      match o.value with
      | none => do shorts title options (← l.flag o) rest
      | some kind =>
        match rest with
        | [] => l.await o.name kind
        | '=' :: given => l.option o.name kind (String.ofList given)
        | given => l.option o.name kind (String.ofList given)
    | none =>
      if c = 'h' then l.request .help
      else if c = 'V' then l.request (.version title)
      else .error .misuse

/-- Ends a command's words. Required arguments must be there, and a variable that stands in for an
option must have a proper value. -/
def finish (l : Level) (g : Grammar) (env : String → Option String) : Except Stop Level := do
  let l ← l.settle
  let badFallback := g.options.any fun o =>
    !l.has o.name && ((o.fallback.bind env).any fun given => !o.value.any fun k => k.accepts given)
  if badFallback || g.positionals.any fun p => p.isRequired && !l.has p.name then throw .misuse
  return l

end Level

/-- A text cut at the first `=`. -/
def cutAtEquals (s : List Char) : String × Option String :=
  match s.span (· != '=') with
  | (name, _ :: value) => (String.ofList name, some (String.ofList value))
  | (name, []) => (String.ofList name, none)

/-- The words after `help`, which name a command step by step. -/
def helpOn (g : Grammar) : List String → Stop
  | [] => .help
  | word :: rest =>
    match g.commands.find? fun c => c.name == word with
    | some c => helpOn c rest
    | none => if word = "help" ∧ rest = [] ∧ g.commands.length ≠ 0 then .help else .misuse

/-- The commands of a command line from the outermost, each with what was given to it. -/
abbrev Matches := List (String × List (String × String))

/-- Reads the words of a command, whose title is its name after those of the commands around it. -/
def read (env : String → Option String) (title : String) (g : Grammar) (l : Level) :
    List String → Except Stop Matches
  | [] => do
    let l ← l.finish g env
    if g.commands.isEmpty then return [(g.name, l.given)] else throw .misuse
  | word :: rest =>
    let isFree := !l.isTrailing && !l.awaitsValue
    match g.commands.find? fun c => isFree && c.name == word with
    | some c => do
      let inner ← read env (title ++ "-" ++ c.name) c {} rest
      let l ← l.finish g env
      return (g.name, l.given) :: inner
    | none =>
      if isFree && word == "help" && !g.commands.isEmpty then .error (helpOn g rest)
      else if l.isTrailing then do read env title g (← l.argument g.positionals word) rest
      else
        match word.toList with
        | ['-', '-'] => read env title g { l with isTrailing := true } rest
        | '-' :: '-' :: body => do
          let (name, attached) := cutAtEquals body
          read env title g (← l.long title g.options name attached) rest
        | '-' :: c :: row => do read env title g (← l.shorts title g.options (c :: row)) rest
        | _ =>
          match l.awaiting with
          | .value name kind =>
            read env title g { l with awaiting := .check name kind word } rest
          | _ => do read env title g (← l.argument g.positionals word) rest

namespace Matches

/-- The value of an option or argument, the innermost command's first. -/
def value? (m : Matches) (name : String) : Option String :=
  m.reverse.findSome? fun (_, given) => (given.find? fun g => g.1 == name).map Prod.snd

/-- How often an option stands in the innermost command that has it. -/
def count (m : Matches) (name : String) : Nat :=
  (m.reverse.findSome? fun (_, given) =>
    match (given.filter fun g => g.1 == name).length with
    | 0 => none
    | n + 1 => some (n + 1)).getD 0

/-- Whether an option stands anywhere. -/
def has (m : Matches) (name : String) : Bool := (m.value? name).isSome

/-- The names of the commands within the outermost. -/
def path (m : Matches) : List String := m.tail.map Prod.fst

end Matches

end DevicePower.Shell
