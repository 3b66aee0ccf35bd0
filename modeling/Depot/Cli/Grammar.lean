/-!
# Reading a command line

A command line is read level by level: the options of the program, then the name of a command, then the
options and arguments of that command.

* An option with two hyphens may have its value behind an equals sign or as the next word; a switch has
  none.  `--help` and `--version` (or `-h` and `-V`) end the reading.
* Two hyphens alone make all words behind them arguments.
* Any other word is the name of a command, where there are commands, or the next argument.

A value is checked when the next option or argument begins, or when the level ends (`settle`).  So of two
faults it is not always the first one that is reported: a word that is nothing at all is reported before the
value in front of it, and so is everything behind the name of a command.

The module knows nothing of the options of a particular program: they are given by a `Level`.
-/

namespace Depot.Cli

/-- Why a command line is not carried out as it stands. -/
inductive UsageError where
  /-- The user asks for help. -/
  | help
  /-- The user asks for the version. -/
  | version
  /-- Nothing at all is given. -/
  | nothingGiven
  | missingCommand
  | unknownCommand
  | unknownArgument
  /-- A switch has a value. -/
  | unexpectedValue
  /-- Something is given twice, or together with something that excludes it. -/
  | conflict
  | missingArgument
  /-- An option or argument is empty. -/
  | missingValue
  /-- A value is not of the right form, for this reason. -/
  | invalidValue (reason : String)
  deriving DecidableEq

/-- An option with a value, or an argument. -/
structure Item where
  name : String
  /-- It may be given more than once. -/
  repeatable : Bool
  /-- What is wrong with a value. -/
  check : String → Except UsageError Unit

/-- What may be given at one level. -/
structure Level where
  options : List Item
  switches : List String
  arguments : List Item
  /-- The commands, each with all its names. -/
  commands : List (List String)

/-- The last thing that was begun. -/
inductive Awaiting where
  | nothing
  /-- An option whose value is the next word. -/
  | value (item : Item)
  /-- A value that has not been checked yet. -/
  | check (item : Item) (value : String)

/-- What has been gathered at a level. -/
structure Gathered where
  /-- The options, switches and arguments with their values, in their order. -/
  given : List (String × String)
  awaiting : Awaiting
  /-- The arguments that may still come. -/
  open' : List Item

namespace Gathered

/-- Nothing yet. -/
def start (level : Level) : Gathered := ⟨[], .nothing, level.arguments⟩

def isGiven (g : Gathered) (name : String) : Bool := g.given.any (·.1 == name)

/-- The value of an option or argument. -/
def value? (g : Gathered) (name : String) : Option String := g.given.lookup name

/-- All values of an option. -/
def values (g : Gathered) (name : String) : List String :=
  (g.given.filter (·.1 == name)).map (·.2)

/-- Take down a value, unless it may not be given again. -/
def record (g : Gathered) (name value : String) (repeatable : Bool) : Except UsageError Gathered :=
  if g.isGiven name && !repeatable then .error .conflict
  else .ok { g with given := g.given ++ [(name, value)], awaiting := .nothing }

/-- Take down a value of an item. -/
def take (g : Gathered) (item : Item) (value : String) : Except UsageError Gathered := do
  let g ← g.record item.name value item.repeatable
  item.check value
  return g

/-- Finish what was begun last. -/
def settle (g : Gathered) : Except UsageError Gathered :=
  match g.awaiting with
  | .nothing => .ok g
  | .value _ => .error .missingValue
  | .check item value => g.take item value

/-- The next word is the value of an option. -/
def wantsValue (g : Gathered) : Bool :=
  match g.awaiting with
  | .value _ => true
  | _ => false

end Gathered

/-- What a word looks like. -/
inductive Word where
  /-- Two hyphens. -/
  | separator
  | long (name : String) (value : Option String)
  /-- One hyphen with letters, of which this is the first. -/
  | short (letter : Char)
  | plain

/-- What a word looks like. -/
def Word.of (word : String) : Word :=
  match word.toList with
  | ['-', '-'] => .separator
  | '-' :: '-' :: rest =>
    let name := rest.takeWhile (· ≠ '=')
    .long (String.ofList name)
      (if name.length < rest.length then some (String.ofList (rest.drop (name.length + 1))) else none)
  | '-' :: letter :: _ => .short letter
  | _ => .plain

namespace Level

/-- The command with this name. -/
def command? (level : Level) (word : String) : Option String :=
  (level.commands.find? (·.contains word)).bind List.head?

/-- The word asks for help on what follows. -/
def isHelp (level : Level) (word : String) : Bool := !level.commands.isEmpty && word == "help"

/-- What comes of asking for help on some commands. -/
def helpOn (level : Level) : List String → UsageError
  | [] => .help
  | [word] => if (level.command? word).isSome || level.isHelp word then .help else .unknownCommand
  | _ => .unknownCommand

/-- An option with two hyphens. -/
def takeLong (level : Level) (g : Gathered) (name : String) (value : Option String) :
    Except UsageError Gathered :=
  match level.options.find? (·.name == name), value with
  | some item, some value => do (← g.settle).take item value
  | some item, none => do return { (← g.settle) with awaiting := .value item }
  | none, _ =>
    if name == "help" || name == "version" || level.switches.contains name then
      if value.isSome then .error .unexpectedValue
      else do
        let g ← g.settle
        if name == "help" then .error .help
        else if name == "version" then .error .version
        else g.record name "" false
    else .error .unknownArgument

/-- Letters behind one hyphen. -/
def takeShort (g : Gathered) (letter : Char) : Except UsageError Gathered :=
  if letter = 'h' then do
    let _ ← g.settle
    .error .help
  else if letter = 'V' then do
    let _ ← g.settle
    .error .version
  else .error .unknownArgument

/-- An argument, perhaps behind the separator. -/
def takeArgument (level : Level) (separated : Bool) (g : Gathered) (word : String) :
    Except UsageError Gathered :=
  match g.open' with
  | item :: rest => do return { (← g.settle) with awaiting := .check item word, open' := rest }
  | [] =>
    if level.commands.isEmpty then .error .unknownArgument
    else if separated && ((level.command? word).isSome || level.isHelp word) then
      .error .unknownArgument
    else .error .unknownCommand

/-- What is given at a level, up to the name of a command, and what follows that name. -/
def gather (level : Level) (separated : Bool) (g : Gathered) :
    List String → Except UsageError (Gathered × Option (String × List String))
  | [] => .ok (g, none)
  | word :: rest =>
    if separated then do
      let g ← level.takeArgument true g word
      level.gather true g rest
    else if !g.wantsValue && level.isHelp word then .error (level.helpOn rest)
    else
      match (if g.wantsValue then none else level.command? word), Word.of word with
      | some command, _ => .ok (g, some (command, rest))
      | none, .separator => level.gather true g rest
      | none, .long name value => do
        let g ← level.takeLong g name value
        level.gather false g rest
      | none, .short letter => do
        let g ← takeShort g letter
        level.gather false g rest
      | none, .plain => do
        let g ←
          match g.awaiting with
          | .value item => .ok { g with awaiting := .check item word }
          | _ => level.takeArgument false g word
        level.gather false g rest

end Level

end Depot.Cli
