/-!
# Command-line arguments

An argument is an option, a cluster of one-letter options, the value of an option before it, or a
positional argument. What options there are is given by a list of them; each may be used once.
-/

namespace SerialFrame

structure CommandOption where
  long : String
  short : Option Char := none
  takesValue : Bool := false
  deriving DecidableEq, Repr

inductive Argument
  | flag (option : String)
  | value (option text : String)
  | positional (text : String)
  deriving DecidableEq, Repr

namespace Argument

def looksLikeOption (text : String) : Bool :=
  text.startsWith "-" && text != "-"

/-- What one text says, and the option that waits for the next text as its value. -/
abbrev Read := List Argument × Option String

def readLong (options : List CommandOption) (text : List Char) : Option Read := do
  let name := String.ofList (text.takeWhile (· ≠ '='))
  let option ← options.find? (·.long = name)
  match text.dropWhile (· ≠ '='), option.takesValue with
  | [], false => some ([.flag name], none)
  | [], true => some ([], some name)
  | _ :: _, false => none
  | _ :: given, true => some ([.value name (String.ofList given)], none)

/-- Reads a cluster of letters. The value of an option is the rest of the cluster, behind `=` or
not, or the next text. -/
def readShort (options : List CommandOption) : List Char → Option Read
  | [] => some ([], none)
  | c :: rest => do
    let option ← options.find? (·.short = some c)
    if option.takesValue then
      match rest with
      | [] => some ([], some option.long)
      | '=' :: given => some ([.value option.long (String.ofList given)], none)
      | given => some ([.value option.long (String.ofList given)], none)
    else
      let (arguments, waiting) ← readShort options rest
      some (.flag option.long :: arguments, waiting)

def read (options : List CommandOption) (text : String) : Option Read :=
  match text.toList with
  | '-' :: '-' :: rest => readLong options rest
  | ['-'] => some ([.positional text], none)
  | '-' :: rest => readShort options rest
  | _ => some ([.positional text], none)

/-- Reads all texts. Two hyphens alone make positional arguments of all texts behind them. -/
def readAll (options : List CommandOption) : List String → Option (List Argument)
  | [] => some []
  | text :: rest =>
    if text = "--" then some (rest.map .positional)
    else
      match read options text, rest with
      | some (arguments, none), rest => (readAll options rest).map (arguments ++ ·)
      | some (arguments, some option), given :: rest =>
        if looksLikeOption given then none
        else (readAll options rest).map (arguments ++ .value option given :: ·)
      | _, _ => none

def distinct (arguments : List Argument) : Bool :=
  let used := arguments.filterMap fun
    | .flag option => some option
    | .value option _ => some option
    | .positional _ => none
  decide used.Nodup

def isSet (arguments : List Argument) (option : String) : Bool :=
  arguments.contains (.flag option)

def valueOf? (arguments : List Argument) (option : String) : Option String :=
  arguments.findSome? fun
    | .value name text => if name = option then some text else none
    | _ => none

def positionals (arguments : List Argument) : List String :=
  arguments.filterMap fun
    | .positional text => some text
    | _ => none

end Argument

end SerialFrame
