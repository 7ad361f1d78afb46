import ModuleId.Command.Basic

/-! # The command line

Options may stand before the command, where only those common to all commands are known, and
anywhere among its arguments. After `--` every argument stands for itself. -/

namespace ModuleId

/-- Why the arguments name no command. -/
inductive UsageError
  | missingCommand
  | unknownCommand (name : String)
  | unknownOption (argument : String)
  | repeatedOption (name : String)
  | missingValue (name : String)
  | invalidValue (name value : String)
  | unexpectedValue (name : String)
  | unexpectedArgument (argument : String)
  | missingArgument
deriving DecidableEq, Repr

def UsageError.message : UsageError → String
  | .missingCommand => "a command is required"
  | .unknownCommand name => "unknown command " ++ Text.quoted name
  | .unknownOption argument => "unknown option " ++ Text.quoted argument
  | .repeatedOption name => "option --" ++ name ++ " is given twice"
  | .missingValue name => "option --" ++ name ++ " needs a value"
  | .invalidValue name value => "option --" ++ name ++ " cannot be " ++ Text.quoted value
  | .unexpectedValue name => "option --" ++ name ++ " takes no value"
  | .unexpectedArgument argument => "unexpected argument " ++ Text.quoted argument
  | .missingArgument => "an argument is missing"

/-! ## Scanning -/

/-- An option that takes a value: one of its choices, or any value if it lists none. -/
structure ValueOption where
  name : String
  choices : List String

/-- What the arguments at one place of the command line may be. -/
structure Grammar where
  flags : List String
  options : List ValueOption
  /-- The greatest number of arguments that are no options, or `none` where the first of them
  names the command. -/
  limit : Option Nat

/-- Arguments sorted by their role. -/
structure Arguments where
  flags : List String
  values : List (String × String)
  positionals : List String
  /-- The name of the command and all that follows it, where the grammar asks for one. -/
  rest : List String

namespace Arguments

def empty : Arguments where
  flags := []
  values := []
  positionals := []
  rest := []

def addFlag (args : Arguments) (name : String) : Except UsageError Arguments :=
  if args.flags.contains name then .error (.repeatedOption name)
  else .ok { args with flags := name :: args.flags }

def addValue (args : Arguments) (option : ValueOption) (value : String) :
    Except UsageError Arguments :=
  if (args.values.lookup option.name).isSome then .error (.repeatedOption option.name)
  else if option.choices.isEmpty || option.choices.contains value then
    .ok { args with values := (option.name, value) :: args.values }
  else .error (.invalidValue option.name value)

/-- Adds arguments that are no options, up to the limit. -/
def addPositionals (args : Arguments) (limit : Nat) (added : List String) :
    Except UsageError Arguments :=
  let all := args.positionals ++ added
  match all.drop limit with
  | [] => .ok { args with positionals := all }
  | surplus :: _ => .error (.unexpectedArgument surplus)

end Arguments

/-- How a single argument reads. -/
inductive Argument
  | separator
  | help
  | long (name : String) (value : Option String)
  | short
  | plain

/-- A dash alone is a plain argument; longer ones that begin with a dash are options. -/
def Argument.ofText (argument : String) : Argument :=
  match argument.toList with
  | ['-', '-'] => .separator
  | ['-', 'h'] => .help
  | '-' :: '-' :: s =>
      if s == ['h', 'e', 'l', 'p'] then .help
      else .long (String.ofList (Text.cut '=' s).1) ((Text.cut '=' s).2.map String.ofList)
  | '-' :: _ :: _ => .short
  | _ => .plain

/-- Whether an argument can be the value of the option before it. -/
def isPlain (argument : String) : Bool :=
  match Argument.ofText argument with
  | .plain => true
  | _ => false

/-- Sorts the arguments by the grammar; `none` when they ask for help. -/
def scan (grammar : Grammar) (args : Arguments) : List String → Except UsageError (Option Arguments)
  | [] => .ok (some args)
  | argument :: rest =>
      match Argument.ofText argument with
      | .help => .ok none
      | .short => .error (.unknownOption argument)
      | .separator =>
          match grammar.limit with
          | none => .error .missingCommand
          | some limit => (args.addPositionals limit rest).map some
      | .plain =>
          match grammar.limit with
          | none => .ok (some { args with rest := argument :: rest })
          | some limit => do
              let args ← args.addPositionals limit [argument]
              scan grammar args rest
      | .long name value =>
          if grammar.flags.contains name then
            match value with
            | some _ => .error (.unexpectedValue name)
            | none => do
                let args ← args.addFlag name
                scan grammar args rest
          else match grammar.options.find? (·.name == name) with
            | none => .error (.unknownOption argument)
            | some option =>
                match value with
                | some value => do
                    let args ← args.addValue option value
                    scan grammar args rest
                | none =>
                    match rest with
                    | [] => .error (.missingValue name)
                    | value :: rest =>
                        if isPlain value then do
                          let args ← args.addValue option value
                          scan grammar args rest
                        else .error (.missingValue name)

/-! ## Commands -/

/-- How much of the work is logged. All commands take it, and nothing is logged. -/
def logLevel : ValueOption :=
  ⟨"log-level", []⟩

/-- The dialects by name. -/
def pathKinds : List PathKind :=
  [.modulePath, .importPath, .filePath]

def kindOption : ValueOption :=
  ⟨"kind", pathKinds.map PathKind.name⟩

/-- What may stand before the name of the command. -/
def Grammar.start : Grammar :=
  ⟨[], [logLevel], none⟩

def Grammar.ofCommand? : String → Option Grammar
  | "check" => some ⟨["json"], [logLevel, kindOption], some 2⟩
  | "split" => some ⟨["json"], [logLevel], some 1⟩
  | "escape" => some ⟨["version"], [logLevel], some 1⟩
  | "unescape" => some ⟨["version"], [logLevel], some 1⟩
  | "canonical" => some ⟨[], [logLevel], some 1⟩
  | "sort" => some ⟨["json"], [logLevel], some 1⟩
  | _ => none

/-- The dialect that the options choose, for modules if they choose none. -/
def Arguments.kind (args : Arguments) : PathKind :=
  ((args.values.lookup "kind").bind fun name => pathKinds.find? (·.name == name)).getD .modulePath

/-- The command of a name with its arguments; `none` when too few are given. -/
def Command.ofArguments? (name : String) (args : Arguments) : Option Command :=
  let json := args.flags.contains "json"
  let isVersion := args.flags.contains "version"
  match name, args.positionals with
  | "check", [path] => some (.check args.kind path none json)
  | "check", [path, version] => some (.check args.kind path (some version) json)
  | "split", [path] => some (.split path json)
  | "escape", [input] => some (.escape input isVersion)
  | "unescape", [input] => some (.unescape input isVersion)
  | "canonical", [version] => some (.canonical version)
  | "sort", [] => some (.sort .standardInput json)
  | "sort", [name] => some (.sort (.file name) json)
  | _, _ => none

/-- What the command line asks for. -/
inductive Request
  | help
  | run (command : Command)
deriving DecidableEq, Repr

/-- The request of a command and the arguments after its name. -/
def Request.ofCommand (name : String) (arguments : List String) : Except UsageError Request :=
  match Grammar.ofCommand? name with
  | none => .error (.unknownCommand name)
  | some grammar => do
      match ← scan grammar Arguments.empty arguments with
      | none => .ok .help
      | some args =>
          match Command.ofArguments? name args with
          | none => .error .missingArgument
          | some command => .ok (.run command)

/-- Help on a command is the help on all of them. -/
def Request.ofHelp : List String → Except UsageError Request
  | [] => .ok .help
  | name :: rest =>
      if name != "help" && (Grammar.ofCommand? name).isNone then .error (.unknownCommand name)
      else match rest with
        | [] => .ok .help
        | argument :: _ => .error (.unexpectedArgument argument)

/-- The request of a whole command line. -/
def Request.ofArguments (arguments : List String) : Except UsageError Request := do
  match ← scan Grammar.start Arguments.empty arguments with
  | none => .ok .help
  | some args =>
      match args.rest with
      | [] => .error .missingCommand
      | "help" :: rest => Request.ofHelp rest
      | name :: rest => Request.ofCommand name rest

end ModuleId
