-- SUMMARY: Reading the command line, level by level, and saying why it is refused.
import EthRpc.CommandLine.Options

/-!
# Arguments

Arguments are read from left to right. A level ends where the name of a command
stands; the command reads the rest as a level of its own and checks it before
the level above it is checked. The value of an option is checked when the next
argument shows that it is complete. Of a value given above and one given below,
the one from the better source wins, and the one below if they are equal.
-/

namespace EthRpc.CommandLine

/-- Why a command line is not carried out. -/
inductive Refusal where
  | unknownArgument
  /-- An option without its value. -/
  | missingValue
  /-- A variable that is neither `true` nor `false`. -/
  | invalidSwitch
  | invalidValue (option : String)
  /-- A switch with a value. -/
  | needlessValue
  | repeated (option : String)
  | unknownCommand
  | missingCommand
  | missingArgument
  /-- Nothing was said at all. -/
  | nothingSaid
  | help
  | version
  deriving DecidableEq

namespace Refusal

/-- Help and version are answers, not failures. -/
def exitCode : Refusal → Nat
  | help | version => 0
  | _ => 2

end Refusal

/-- Where a value comes from, the least telling first. -/
inductive Source where
  | default
  | environment
  | argument
  deriving DecidableEq

namespace Source

def rank : Source → Nat
  | default => 0
  | environment => 1
  | argument => 2

end Source

/-- A value and where it comes from. -/
structure Setting where
  source : Source
  text : String
  deriving DecidableEq

/-- What one level understands. -/
structure Grammar where
  options : List OptionSpec
  /-- How many arguments without a name there may be, and how many there must be. -/
  most : Nat
  least : Nat
  commands : List String
  hasVersion : Bool

namespace Grammar

def root : Grammar := ⟨commonOptions, 0, 0, ["request", "watch", "help"], true⟩

def request : Grammar := ⟨commonOptions, 2, 1, [], false⟩

def watch : Grammar := ⟨⟨"count", .number64, none, none⟩ :: commonOptions, 0, 0, [], false⟩

def find? (g : Grammar) (name : String) : Option OptionSpec := g.options.find? (·.name == name)

end Grammar

/-- How far a level has been read. -/
structure Level where
  settings : Dict Setting := []
  /-- Arguments without a name, in order. -/
  plain : List String := []
  /-- An option that was named last, with its value once it came. -/
  pending : Option (OptionSpec × Option String) := none
  /-- Everything that follows is an argument without a name. -/
  isPlain : Bool := false

abbrev Reading := Except Refusal

namespace Level

/-- Take a value for an option. -/
def accept (l : Level) (o : OptionSpec) (s : String) : Reading Level :=
  if (l.settings.get? o.name).isSome then .error (.repeated o.name)
  else if o.kind.fits s then
    .ok { l with settings := l.settings.insert o.name ⟨.argument, s⟩ }
  else .error (.invalidValue o.name)

/-- The option that was named last is complete. -/
def settle (l : Level) : Reading Level :=
  match l.pending with
  | none => .ok l
  | some (_, none) => .error .missingValue
  | some (o, some s) => { l with pending := none }.accept o s

/-- The option that was named last waits for its value. -/
def isWaiting (l : Level) : Bool := l.pending.any (·.2.isNone)

/-- Fill in variables, in the order of the options. -/
def addVariables (environment : List (String × String)) :
    List OptionSpec → Level → Reading Level
  | [], l => .ok l
  | o :: os, l =>
    match l.settings.get? o.name, o.variableName.bind fun v => environment.lookup v with
    | none, some s =>
      if o.kind.fits s then
        addVariables environment os
          { l with settings := l.settings.insert o.name ⟨.environment, s⟩ }
      else .error (if o.kind = .switch then .invalidSwitch else .invalidValue o.name)
    | _, _ => addVariables environment os l

def addDefaults (os : List OptionSpec) (l : Level) : Level :=
  os.foldl (fun l o =>
    match l.settings.get? o.name, o.fallback with
    | none, some s => { l with settings := l.settings.insert o.name ⟨.default, s⟩ }
    | _, _ => l) l

/-- All arguments of a level are read. -/
def finish (environment : List (String × String)) (g : Grammar) (l : Level) : Reading Level := do
  let l ← addVariables environment g.options (← l.settle)
  return addDefaults g.options l

end Level

/-! ## Single arguments -/

/-- What an argument looks like. -/
inductive Shape where
  | divider
  | long (name : String) (value : Option String)
  | short (c : Char)
  | plain (s : String)

namespace Shape

def ofText (s : String) : Shape :=
  match s.toList with
  | ['-', '-'] => divider
  | '-' :: '-' :: cs =>
    let name := cs.takeWhile (· ≠ '=')
    long (String.ofList name)
      (match cs.drop name.length with
        | [] => none
        | _ :: value => some (String.ofList value))
  | '-' :: c :: _ => short c
  | _ => plain s

end Shape

/-- A request for help or for the version, in a word. -/
def question? (g : Grammar) (name : String) : Option Refusal :=
  if name = "help" then some .help
  else if g.hasVersion ∧ name = "version" then some .version
  else none

/-- A request for help or for the version, in a letter. -/
def shortQuestion? (g : Grammar) (c : Char) : Option Refusal :=
  if c = 'h' then some .help
  else if g.hasVersion ∧ c = 'V' then some .version
  else none

/-- Ask a question once the option before it is complete. -/
def ask {α : Type} (l : Level) (r : Refusal) : Reading α := l.settle.bind fun _ => .error r

/-- An option by its name, with its value if that is attached to it. -/
def readLong (g : Grammar) (l : Level) (name : String) (value : Option String) : Reading Level :=
  match g.find? name, value with
  | some o, none => do
    let l ← l.settle
    if o.kind = .switch then l.accept o "true" else return { l with pending := some (o, none) }
  | some o, some s =>
    if o.kind = .switch then .error .needlessValue
    else l.settle.bind fun l => l.accept o s
  | none, none =>
    match question? g name with
    | some r => ask l r
    | none => .error .unknownArgument
  | none, some _ =>
    .error (if (question? g name).isSome then .needlessValue else .unknownArgument)

/-- An argument that is no option. -/
def readPlain (g : Grammar) (l : Level) (s : String) : Reading Level :=
  if l.plain.length < g.most then
    l.settle.map fun l => { l with plain := l.plain ++ [s] }
  else if g.commands = [] ∨ (l.isPlain ∧ g.commands.contains s) then .error .unknownArgument
  else .error .unknownCommand

/-- The next argument of a level, which is not the name of a command. -/
def readArgument (g : Grammar) (l : Level) (s : String) : Reading Level :=
  if l.isPlain then readPlain g l s
  else
    match Shape.ofText s, l.pending with
    | .divider, _ => .ok { l with isPlain := true }
    | .long name value, _ => readLong g l name value
    | .short c, _ =>
      match shortQuestion? g c with
      | some r => ask l r
      | none => .error .unknownArgument
    | .plain s, some (o, none) => .ok { l with pending := some (o, some s) }
    | .plain s, _ => readPlain g l s

/-! ## Levels -/

/-- The arguments of a level up to the name of a command, the command, and the rest. -/
def readLevel (g : Grammar) (l : Level) : List String → Reading (Level × Option (String × List String))
  | [] => .ok (l, none)
  | s :: rest =>
    if ¬l.isPlain ∧ ¬l.isWaiting ∧ g.commands.contains s then .ok (l, some (s, rest))
    else (readArgument g l s).bind fun l => readLevel g l rest

/-- The only argument of `help` is the name of a command. -/
def help : List String → Refusal
  | [] => .help
  | [name] => if Grammar.root.commands.contains name then .help else .unknownCommand
  | _ => .unknownCommand

/-- A command with its arguments. -/
def readCommand (environment : List (String × String)) (name : String) (arguments : List String) :
    Reading (Command × Level) := do
  let g := if name = "request" then Grammar.request else Grammar.watch
  let (l, _) ← readLevel g {} arguments
  let l ← l.finish environment g
  match name, l.plain with
  | "request", [] => .error .missingArgument
  | "request", method :: params => return (.request method params.head?, l)
  | _, _ =>
    return (.watch ((l.settings.get? "count").bind fun s => Kind.number64? s.text), l)

/-- The values of the options on both levels. -/
def merge (above below : Dict Setting) : Dict Setting :=
  above.map fun (name, s) =>
    match below.get? name with
    | some s' => (name, if s'.source.rank < s.source.rank then s else s')
    | none => (name, s)

/-- Values that only the level below has. -/
def addMissing (above below : Dict Setting) : Dict Setting :=
  below.foldl (fun d (name, s) =>
    match above.get? name with
    | none => Dict.insert name s d
    | some _ => d) above

/-- Read a command line, given the variables around. -/
def read (environment : List (String × String)) (arguments : List String) : Reading Options := do
  let g := Grammar.root
  let (l, command) ← readLevel g {} arguments
  match command with
  | some ("help", rest) => .error (help rest)
  | some (name, rest) =>
    let (command, below) ← readCommand environment name rest
    let l ← l.finish environment g
    let settings := addMissing (merge l.settings below.settings) below.settings
    return Options.ofValues command (settings.mapValues (·.text))
  | none =>
    let l ← l.finish environment g
    .error (if l.settings.all (·.2.source = .default) then .nothingSaid else .missingCommand)

end EthRpc.CommandLine
