import CiFront.Cli.Switch
/-!
# Reading the arguments

The arguments are read from left to right, each either as a switch, as the value that the switch before it
waits for, as the command or as an operand of the command. Behind `--` everything is an operand. In the
place of a command `help` may stand, and behind it the name of what to help with and nothing else. The
first misuse ends the reading, and so does a switch that asks for the version or for help.
-/

namespace CiFront.Cli

/-- Why arguments cannot be read. -/
inductive Misuse where
  | unknownSwitch (argument : String)
  | missingValue (switch : Switch)
  | unexpectedValue (switch : Switch)
  | badValue (switch : Switch) (value : String)
  | repeated (switch : Switch)
  | unknownCommand (argument : String)
  | missingCommand
  | extraOperand (argument : String)
  | missingOperand
  deriving DecidableEq, Repr

/-- The wording of a misuse. -/
def Misuse.message : Misuse → String
  | unknownSwitch argument => "unexpected argument '" ++ argument ++ "' found"
  | missingValue switch => "a value is required for '--" ++ switch.long ++ "' but none was supplied"
  | unexpectedValue switch => "'--" ++ switch.long ++ "' takes no value"
  | badValue switch value => "invalid value '" ++ value ++ "' for '--" ++ switch.long ++ "'"
  | repeated switch => "'--" ++ switch.long ++ "' cannot be used multiple times"
  | unknownCommand argument => "unrecognized subcommand '" ++ argument ++ "'"
  | missingCommand => "a subcommand is required but none was supplied"
  | extraOperand argument => "unexpected argument '" ++ argument ++ "' found"
  | missingOperand => "a required argument was not supplied"

/-- What ends the reading of arguments before they are all read. -/
inductive Stop where
  | misuse (misuse : Misuse)
  | version
  | help
  deriving DecidableEq, Repr

/-- What is given before the command, or behind it: switches with their values, in order, and operands.
A switch that takes no value has an empty one. -/
structure Given where
  switches : List (Switch × String) := []
  operands : List String := []
  deriving DecidableEq, Repr

namespace Given

/-- Whether a switch is given. -/
def has (given : Given) (switch : Switch) : Bool :=
  given.switches.any (·.1 == switch)

/-- The value of a switch, if it is given. -/
def value? (given : Given) (switch : Switch) : Option String :=
  given.switches.lookup switch

/-- The values of a switch that may be repeated. -/
def values (given : Given) (switch : Switch) : List String :=
  (given.switches.filter (·.1 == switch)).map (·.2)

/-- Adds a switch and its value. -/
def give (given : Given) (switch : Switch) (value : String) : Except Stop Given :=
  match switch with
  | .version => .error .version
  | .help => .error .help
  | _ =>
    if !switch.mayRepeat && given.has switch then .error (.misuse (.repeated switch))
    else if !switch.accepts value then .error (.misuse (.badValue switch value))
    else .ok { given with switches := given.switches ++ [(switch, value)] }

end Given

/-- What `help` is asked about: the program, or what has a name. -/
inductive Topic where
  | program
  | named (name : String)
  deriving DecidableEq, Repr

namespace Topic

/-- The word that asks for help in the place of a command. -/
def word : String := "help"

/-- The names that help can be asked about: the commands', and the word itself. -/
def names : List String := word :: Command.all.map Command.name

/-- Takes one more argument behind the word. -/
def narrow (topic : Topic) (argument : String) : Except Stop Topic :=
  if topic = .program ∧ argument ∈ names then .ok (.named argument)
  else .error (.misuse (.unknownCommand argument))

end Topic

/-- The arguments that were read so far. -/
structure Reading where
  before : Given := {}
  command : Option (Command × Given) := none
  /-- What help is asked about, if it is. -/
  topic : Option Topic := none
  /-- The switch that waits for its value. -/
  pending : Option Switch := none
  /-- Whether only operands follow. -/
  literal : Bool := false
  deriving DecidableEq, Repr

namespace Reading

/-- The switches that may stand at this point. -/
def known (reading : Reading) : List Switch :=
  match reading.command with
  | some (command, _) => Switch.ofCommand command
  | none => Switch.beforeCommand

/-- Adds a switch and its value, before the command or behind it. -/
def give (reading : Reading) (switch : Switch) (value : String) : Except Stop Reading :=
  match reading.command with
  | some (command, behind) => do
    pure { reading with command := some (command, ← behind.give switch value), pending := none }
  | none => do
    pure { reading with before := ← reading.before.give switch value, pending := none }

/-- Takes an argument as the command or as an operand. -/
def operand (reading : Reading) (argument : String) : Except Stop Reading :=
  match reading.command with
  | some (command, behind) =>
    if !behind.operands.isEmpty then .error (.misuse (.extraOperand argument))
    else if !command.accepts argument then .error (.misuse .missingOperand)
    else .ok { reading with
      command := some (command, { behind with operands := behind.operands ++ [argument] }) }
  | none =>
    if reading.literal then .error (.misuse (.extraOperand argument))
    else if argument = Topic.word then .ok { reading with topic := some .program }
    else match Command.all.find? (·.name == argument) with
      | some command => .ok { reading with command := some (command, {}) }
      | none => .error (.misuse (.unknownCommand argument))

/-- Takes what stands behind two hyphens: the name of a switch, perhaps with `=` and its value. -/
def longSwitch (reading : Reading) (argument : List Char) : Except Stop Reading :=
  let name := String.ofList (argument.takeWhile (· ≠ '='))
  match reading.known.find? (·.long == name), argument.dropWhile (· ≠ '=') with
  | none, _ => .error (.misuse (.unknownSwitch ("--" ++ String.ofList argument)))
  | some switch, [] =>
    if switch.takesValue then .ok { reading with pending := some switch }
    else reading.give switch ""
  | some switch, _ :: value =>
    if switch.takesValue then reading.give switch (String.ofList value)
    else .error (.misuse (.unexpectedValue switch))

/-- Takes what stands behind one hyphen: the letters of switches. What follows the letter of a switch that
takes a value is its value, perhaps behind `=`. -/
def shortSwitches (reading : Reading) : List Char → Except Stop Reading
  | [] => .ok reading
  | c :: rest =>
    match reading.known.find? (·.short? == some c) with
    | none => .error (.misuse (.unknownSwitch (String.ofList ['-', c])))
    | some switch =>
      if switch.takesValue then
        match rest with
        | [] => .ok { reading with pending := some switch }
        | '=' :: value => reading.give switch (String.ofList value)
        | _ => reading.give switch (String.ofList rest)
      else do
        let next ← reading.give switch ""
        next.shortSwitches rest

/-- Whether an argument is a switch: it starts with a hyphen and goes on. -/
def isSwitch (argument : String) : Bool :=
  match argument.toList with
  | '-' :: _ :: _ => true
  | _ => false

/-- Takes one argument. -/
def step (reading : Reading) (argument : String) : Except Stop Reading :=
  match reading.topic, reading.pending with
  | some topic, _ => do pure { reading with topic := some (← topic.narrow argument) }
  | none, some switch =>
    if isSwitch argument then .error (.misuse (.missingValue switch))
    else reading.give switch argument
  | none, none =>
    if reading.literal then reading.operand argument
    else match argument.toList with
      | ['-', '-'] => .ok { reading with literal := true }
      | '-' :: '-' :: rest => reading.longSwitch rest
      | '-' :: c :: rest => reading.shortSwitches (c :: rest)
      | _ => reading.operand argument

end Reading

end CiFront.Cli
