import Scaffold.CommandLine.Level

/-!
# Reading the command line

The arguments are read from left to right.  The value of an option or of a position is checked when
the argument after it makes plain that the value is over, the level of a command is read and checked
before the level above it, and a request for help ends the reading at once.
-/

namespace Scaffold

/-- Why no command came of the arguments. -/
inductive UsageFault where
  | help
  | version
  /-- Nothing was asked for. -/
  | nothingGiven
  | missingCommand
  | missingArgument
  | unknownArgument
  | unknownCommand
  | badValue
  | surplusValue
  | conflict
deriving DecidableEq, Repr

/-- Help and the version are what was asked for; everything else is a mistake of the user. -/
def UsageFault.exitCode : UsageFault → Nat
  | .help => 0
  | .version => 0
  | _ => 2

namespace CommandLine

/-- What an argument gives to its name. -/
inductive Given where
  | flag
  | count (n : Nat)
  | text (s : String)
deriving DecidableEq, Repr

/-- A value that is not checked yet; an option may still wait for its text. -/
structure Pending where
  name : String
  rule : ValueRule
  text : Option String
deriving DecidableEq, Repr

/-- How far the arguments of one level have been read. -/
structure Reading where
  given : List (String × Given)
  pending : Option Pending
  /-- The next argument is the text of the pending option, unless it is an option. -/
  awaiting : Bool
  /-- How many positions are taken. -/
  taken : Nat
  /-- All that is left are values. -/
  trailing : Bool
deriving DecidableEq, Repr

namespace Reading

def start : Reading := ⟨[], none, false, 0, false⟩

def isGiven (r : Reading) (name : String) : Bool := (r.given.lookup name).isSome

def text? (r : Reading) (name : String) : Option String :=
  match r.given.lookup name with
  | some (.text s) => some s
  | _ => none

def count (r : Reading) (name : String) : Nat :=
  match r.given.lookup name with
  | some (.count n) => n
  | _ => 0

/-- Nothing but a count is given twice. -/
def give (name : String) (value : Given) (r : Reading) : Except UsageFault Reading :=
  if r.isGiven name then .error .conflict else .ok { r with given := r.given ++ [(name, value)] }

def countLimit : Nat := 255

def countUp (name : String) (r : Reading) : Reading :=
  let n := min countLimit (r.count name + 1)
  { r with given := (r.given.filter fun entry => entry.1 != name) ++ [(name, .count n)] }

/-- Checks the pending value and keeps it. -/
def settle (r : Reading) : Except UsageFault Reading := do
  match r.pending with
  | none => return r
  | some ⟨_, _, none⟩ => throw .badValue
  | some ⟨name, rule, some text⟩ =>
      let r ← { r with pending := none }.give name (.text text)
      if rule.admits text then return r else throw .badValue

/-- An option with a value that stands apart from it. -/
def await (name : String) (rule : ValueRule) (r : Reading) : Except UsageFault Reading := do
  return { ← r.settle with pending := some ⟨name, rule, none⟩, awaiting := true }

/-- An option with a value that stands in the same argument. -/
def attach (name : String) (rule : ValueRule) (text : String) (r : Reading) :
    Except UsageFault Reading := do
  let r ← r.settle
  { r with pending := some ⟨name, rule, some text⟩, awaiting := false }.settle

/-- An option without a value. -/
def react (option : OptionRule) (r : Reading) : Except UsageFault Reading := do
  let r := { ← r.settle with awaiting := false }
  match option.effect with
  | .help => throw .help
  | .version => throw .version
  | .count => return r.countUp option.name
  | _ => r.give option.name .flag

/-- An option by its name, with what stands behind the equals sign. -/
def long (level : Level) (name : String) (attached : Option String) (r : Reading) :
    Except UsageFault Reading :=
  match level.optionNamed? name with
  | none => .error .unknownArgument
  | some option =>
      match option.effect, attached with
      | .value rule, some text => r.attach name rule text
      | .value rule, none => r.await name rule
      | _, some _ => .error .surplusValue
      | _, none => r.react option

/-- Options by their letters; the first one that takes a value takes the rest of the argument. -/
def letters (level : Level) (r : Reading) : List Char → Except UsageFault Reading
  | [] => .ok r
  | letter :: rest =>
      match level.optionLettered? letter with
      | none => .error .unknownArgument
      | some option =>
          match option.effect, rest with
          | .value rule, [] => r.await option.name rule
          | .value rule, '=' :: text => r.attach option.name rule (String.ofList text)
          | .value rule, text => r.attach option.name rule (String.ofList text)
          | _, _ => do letters level (← r.react option) rest

/-- The text of the option that waits for it. -/
def answer (text : String) (r : Reading) : Reading :=
  { r with
    pending := r.pending.map fun pending => { pending with text := some text }
    awaiting := false }

/-- An argument where a position is to be taken. -/
def position (level : Level) (text : String) (r : Reading) : Except UsageFault Reading :=
  match level.positions[r.taken]? with
  | some rule => do
      return { ← r.settle with
        pending := some ⟨rule.name, rule.value, some text⟩, awaiting := false,
        taken := r.taken + 1 }
  | none =>
      if r.trailing && level.isCommand text then .error .unknownArgument
      else if level.wantsCommand then .error .unknownCommand
      else .error .unknownArgument

/-- The name of an option and what stands behind its equals sign. -/
def nameAndValue (cs : List Char) : String × Option String :=
  match cs.dropWhile (· != '=') with
  | [] => (String.ofList cs, none)
  | _ :: value => (String.ofList (cs.takeWhile (· != '=')), some (String.ofList value))

/-- Takes one argument that is no command. -/
def take (level : Level) (text : String) (r : Reading) : Except UsageFault Reading :=
  if r.trailing then r.position level text
  else
    match text.toList with
    | ['-', '-'] => .ok { r with trailing := true }
    | '-' :: '-' :: cs =>
        let (name, attached) := nameAndValue cs
        r.long level name attached
    | '-' :: c :: cs => r.letters level (c :: cs)
    | _ => if r.awaiting then .ok (r.answer text) else r.position level text

/-- Where colors are not turned off by the option, the variable speaks for it, and it has to speak
clearly. -/
def admitsColorSetting (setting : Option String) (r : Reading) : Bool :=
  r.isGiven "no-color" || setting.all fun text => text == "true" || text == "false"

/-- Checks the last value, the variable, what goes together, and what is missing.  The variable
counts as something given. -/
def finish (level : Level) (hasCommand : Bool) (noColor : Option String) (r : Reading) :
    Except UsageFault Reading := do
  let r ← r.settle
  if !r.admitsColorSetting noColor then throw .badValue
  if level.wantsCommand && !hasCommand then
    throw (if r.given.isEmpty && noColor.isNone then .nothingGiven else .missingCommand)
  if r.isGiven "quiet" && r.isGiven "verbose" then throw .conflict
  if level.positions.all fun position => r.isGiven position.name then return r
  throw .missingArgument

end Reading

/-- Help with a command: each word has to be a command of the one before it. -/
def helpWith : Option Level → List String → UsageFault
  | _, [] => .help
  | none, _ :: _ => .unknownCommand
  | some level, word :: rest =>
      if level.isCommand word then helpWith (level.commands.lookup word) rest
      else .unknownCommand

/-- The levels that the arguments lead through, from the given one down, each with what it is
given. -/
def readLevels (noColor : Option String) (level : Level) (r : Reading) :
    List String → Except UsageFault (List (Level × Reading))
  | [] => do
      let r ← r.finish level false noColor
      return [(level, r)]
  | text :: rest => do
      if !r.trailing && !r.awaiting && level.isCommand text then
        match level.commands.lookup text with
        | none => throw (helpWith (some level) rest)
        | some sublevel =>
            let below ← readLevels noColor sublevel .start rest
            let r ← r.finish level true noColor
            return (level, r) :: below
      else readLevels noColor level (← r.take level text) rest

/-- The command of a level. -/
def commandOf (level : Level) (r : Reading) : Option Command :=
  let text (name : String) : String := (r.text? name).getD ""
  let path? (name : String) : Option Path := (r.text? name).map Path.mk
  match level with
  | .run =>
      some (.run
        { source := text "source"
          directory := path? "dir"
          force := r.isGiven "force"
          extendPath := r.text? "extend-path"
          noInstall := r.isGiven "no-install"
          store := path? "store" })
  | .init => some (.init (r.isGiven "force"))
  | .completions => (Shell.ofWord? (text "shell")).map .completions
  | .configGet => some (.config (.get (text "key")))
  | .configSet => some (.config (.set (text "key") (text "value")))
  | .configList => some (.config .list)
  | .configPath => some (.config .path)
  | .top => none
  | .config => none

/-- Of the levels that give the name, the lowest one counts. -/
def lowest? {α : Type} (levels : List (Level × Reading)) (value? : Reading → Option α) : Option α :=
  levels.reverse.findSome? fun entry => value? entry.2

def givenCount? (name : String) (r : Reading) : Option Nat :=
  if r.isGiven name then some (r.count name) else none

/-- Colors are off when any level says so, or the variable. -/
def colorsOff (setting : Option String) (levels : List (Level × Reading)) : Bool :=
  levels.any (fun entry => entry.2.isGiven "no-color") || setting == some "true"

/-- The invocation that the arguments state; the variable is the one that turns colors off. -/
def parse (noColor : Option String) (arguments : List String) : Except UsageFault Invocation := do
  let levels ← readLevels noColor .top .start arguments
  match levels.getLast?.bind fun entry => commandOf entry.1 entry.2 with
  | none => throw .missingCommand
  | some command =>
      return {
        command
        verbosity := (lowest? levels (givenCount? "verbose")).getD 0
        quiet := levels.any fun entry => entry.2.isGiven "quiet"
        noColor := colorsOff noColor levels
        config := (lowest? levels fun r => r.text? "config").map Path.mk }

end CommandLine
end Scaffold
