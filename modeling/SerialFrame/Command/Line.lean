import SerialFrame.Command.Arguments

/-!
# Commands from arguments

The options before the name of a command are read one by one, since asking for the version ends the
reading; all behind the name belongs to the command.
-/

namespace SerialFrame

structure CompileArguments where
  project : String
  mode : String
  state : Option String
  reset : Bool
  strict : Bool
  output : Option String
  format : String
  deriving DecidableEq, Repr

inductive Command
  | compile (arguments : CompileArguments)
  | checksum (algorithm : String) (hex : List String) (byteOrder : Option String)
  | version
  | programVersion
  | help
  deriving DecidableEq, Repr

namespace Command

def commonOptions : List CommandOption :=
  [{ long := "verbose", short := some 'v' }, { long := "help", short := some 'h' }]

def compileOptions : List CommandOption :=
  [{ long := "mode", short := some 'm', takesValue := true },
    { long := "state", short := some 's', takesValue := true },
    { long := "reset" },
    { long := "strict" },
    { long := "output", short := some 'o', takesValue := true },
    { long := "format", short := some 'f', takesValue := true }]

def checksumOptions : List CommandOption :=
  [{ long := "byte-order", short := some 'b', takesValue := true }]

/-- Reads arguments with the common options and further ones; help wins over what else is wrong. -/
def read (options : List CommandOption) (texts : List String)
    (command : List Argument → Option Command) : Option Command := do
  let arguments ← Argument.readAll (commonOptions ++ options) texts
  if Argument.distinct arguments then
    if Argument.isSet arguments "help" then some .help else command arguments
  else none

def path? (text : String) : Option String :=
  if text = "" then none else some text

def readCompile (texts : List String) : Option Command :=
  read compileOptions texts fun arguments => do
    let [project] := Argument.positionals arguments | none
    return .compile {
      project := ← path? project
      mode := (Argument.valueOf? arguments "mode").getD "hex"
      state := ← (Argument.valueOf? arguments "state").mapM path?
      reset := Argument.isSet arguments "reset"
      strict := Argument.isSet arguments "strict"
      output := ← (Argument.valueOf? arguments "output").mapM path?
      format := (Argument.valueOf? arguments "format").getD "text" }

def readChecksum (texts : List String) : Option Command :=
  read checksumOptions texts fun arguments => do
    let algorithm :: hex := Argument.positionals arguments | none
    if hex.isEmpty then none
    else return .checksum algorithm hex (Argument.valueOf? arguments "byte-order")

def readVersion (texts : List String) : Option Command :=
  read [] texts fun arguments =>
    if (Argument.positionals arguments).isEmpty then some .version else none

def readNamed (name : String) (texts : List String) : Option Command :=
  match name with
  | "compile" => readCompile texts
  | "checksum" => readChecksum texts
  | "version" => readVersion texts
  | "help" => some .help
  | _ => none

/-- What letters before the name of a command ask for: nothing yet, or a command of their own. The
flag for a verbose log may be set once. -/
def readLetters (verbose : Bool) : List Char → Option (Bool × Option Command)
  | [] => some (verbose, none)
  | 'V' :: _ => some (verbose, some .programVersion)
  | 'h' :: _ => some (verbose, some .help)
  | 'v' :: rest => if verbose then none else readLetters true rest
  | _ => none

def ofArguments? (verbose : Bool) : List String → Option Command
  | [] => none
  | text :: rest =>
    match text.toList with
    | '-' :: '-' :: _ =>
      match text with
      | "--verbose" => if verbose then none else ofArguments? true rest
      | "--version" => some .programVersion
      | "--help" => some .help
      | _ => none
    | '-' :: c :: letters =>
      match readLetters verbose (c :: letters) with
      | some (_, some command) => some command
      | some (verbose, none) => ofArguments? verbose rest
      | none => none
    | _ => readNamed text rest

end Command

end SerialFrame
