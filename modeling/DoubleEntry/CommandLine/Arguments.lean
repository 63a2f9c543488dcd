/-!
# Command-line arguments

A `Form` says what may follow the name of a command: options and flags, positional arguments and
further commands.  `parse` reads the words of a command line against a form.

* An option takes the next word or what follows its equals sign; a word that begins with a minus
  sign and is more than that is never taken.  No option or flag may come twice on one level.
* After the word `--` all words are positional.
* `--help` and `-h`, and the command `help` wherever there are commands, ask for help; `--version`
  and `-V` ask for the version at the top.  The words after such a request are not looked at.
* A value is checked when the next argument comes, and not before.
-/

namespace DoubleEntry.CommandLine

/-! ## Forms -/

/-- An argument: its name, its letter, and which values it accepts; a flag takes none. -/
structure Argument where
  name : String
  letter : Option Char
  accepts : Option (String → Bool)

/-- A flag without a letter. -/
def Argument.flag (name : String) : Argument := ⟨name, none, none⟩

/-- An option or positional argument. -/
def Argument.value (name : String) (accepts : String → Bool) : Argument :=
  ⟨name, none, some accepts⟩

/-- What may follow the name of a command.  Every positional argument must be given, and so must a
command if there are any. -/
inductive Form where
  | mk (options positionals : List Argument) (commands : List (String × Form))

namespace Form

/-- The options and flags. -/
def options : Form → List Argument
  | .mk options _ _ => options

/-- The positional arguments. -/
def positionals : Form → List Argument
  | .mk _ positionals _ => positionals

/-- The commands that may follow. -/
def commands : Form → List (String × Form)
  | .mk _ _ commands => commands

/-- The form of a command. -/
def command? (f : Form) (name : String) : Option Form :=
  f.commands.lookup name

end Form

/-! ## Results -/

/-- The command line asks for something else than to run a command, or it is refused. -/
inductive Detour where
  | help
  | version
  /-- The arguments do not fit. -/
  | refused
  deriving DecidableEq, Repr

/-- What was given for one command: its name, and the values by the name of the argument.  The value
of a flag is empty. -/
structure Level where
  command : String
  given : List (String × String)
  deriving DecidableEq, Repr

/-! ## Parsing -/

/-- The state of parsing one level. -/
structure Progress where
  /-- What was given and checked. -/
  given : List (String × String)
  /-- The argument that was met last, and its value if it has come. -/
  pending : Option (Argument × Option String)
  /-- How many positional arguments have come. -/
  count : Nat
  /-- Whether all words that follow are positional. -/
  onlyPositional : Bool

namespace Progress

/-- Nothing was met yet. -/
def start : Progress := ⟨[], none, 0, false⟩

/-- Add a value, or a flag. -/
def add (p : Progress) (arg : Argument) (value : String) : Except Detour Progress :=
  if (p.given.lookup arg.name).isSome then .error .refused
  else if (arg.accepts.map (· value)).getD true then
    .ok { p with given := p.given ++ [(arg.name, value)] }
  else .error .refused

/-- Check and add the argument that was met last. -/
def settle (p : Progress) : Except Detour Progress :=
  match p.pending with
  | none => .ok p
  | some (_, none) => .error .refused
  | some (arg, some value) => { p with pending := none }.add arg value

/-- Whether the next word may be the value of an option. -/
def awaitsValue (p : Progress) : Bool :=
  match p.pending with
  | some (_, none) => true
  | _ => false

end Progress

/-- The end of a level: what was given, if nothing is missing. -/
def finish (form : Form) (hasCommand : Bool) (name : String) (p : Progress) :
    Except Detour Level := do
  let p ← p.settle
  if p.count < form.positionals.length ∨ (!form.commands.isEmpty && !hasCommand) then
    .error .refused
  else pure ⟨name, p.given⟩

/-- A positional argument. -/
def positional (form : Form) (p : Progress) (word : String) : Except Detour Progress := do
  match form.positionals[p.count]? with
  | none => .error .refused
  | some arg =>
    let p ← p.settle
    pure { p with pending := some (arg, some word), count := p.count + 1 }

/-- A long option or flag: its name, and the value after its equals sign. -/
def long (form : Form) (top : Bool) (p : Progress) (name : String) (value : Option String) :
    Except Detour Progress :=
  match form.options.find? (·.name == name) with
  | some arg =>
    match arg.accepts, value with
    | none, none => do (← p.settle).add arg ""
    | none, some _ => .error .refused
    | some _, some v => do (← p.settle).add arg v
    | some _, none => do
      let p ← p.settle
      pure { p with pending := some (arg, none) }
  | none =>
    if value.isSome then .error .refused
    else if name = "help" then do
      let _ ← p.settle
      .error .help
    else if name = "version" ∧ top then do
      let _ ← p.settle
      .error .version
    else .error .refused

/-- The letters of a word with a single minus sign. -/
def letters (form : Form) (top : Bool) : Progress → List Char → Except Detour Progress
  | p, [] => .ok p
  | p, c :: rest => do
    match form.options.find? (·.letter == some c) with
    | some arg =>
      let p ← p.settle
      letters form top (← p.add arg "") rest
    | none =>
      if c = 'h' then
        let _ ← p.settle
        .error .help
      else if c = 'V' ∧ top then
        let _ ← p.settle
        .error .version
      else .error .refused

/-- Follow the words after the command `help`. -/
def helpOn : Form → List String → Detour
  | _, [] => .help
  | form, word :: rest =>
    match form.command? word with
    | some sub => helpOn sub rest
    | none => if word = "help" ∧ !form.commands.isEmpty ∧ rest.isEmpty then .help else .refused

/-- The two sides of the first equals sign of a word. -/
def splitEquals (cs : List Char) : String × Option String :=
  (String.ofList (cs.takeWhile (· ≠ '=')),
    match cs.dropWhile (· ≠ '=') with
    | [] => none
    | _ :: value => some (String.ofList value))

/-- Parse the words after the name of a command.  The answer has a level for this command and for
each command below. -/
def parseLevel (form : Form) (top : Bool) (name : String) (p : Progress) :
    List String → Except Detour (List Level)
  | [] => do return [← finish form false name p]
  | word :: rest =>
    if p.onlyPositional then do
      parseLevel form top name (← positional form p word) rest
    else
      match if p.awaitsValue then none else form.command? word with
      | some sub => do
        let below ← parseLevel sub false word .start rest
        return (← finish form true name p) :: below
      | none =>
        if !p.awaitsValue ∧ word = "help" ∧ !form.commands.isEmpty then .error (helpOn form rest)
        else if word = "--" then parseLevel form top name { p with onlyPositional := true } rest
        else match word.toList, p.pending with
          | '-' :: '-' :: cs, _ => do
            let (option, value) := splitEquals cs
            parseLevel form top name (← long form top p option value) rest
          | '-' :: c :: cs, _ => do
            parseLevel form top name (← letters form top p (c :: cs)) rest
          | _, some (arg, none) =>
            parseLevel form top name { p with pending := some (arg, some word) } rest
          | _, _ => do
            parseLevel form top name (← positional form p word) rest

/-- Parse the words of a command line. -/
def parse (form : Form) (words : List String) : Except Detour (List Level) :=
  parseLevel form true "" .start words

end DoubleEntry.CommandLine
