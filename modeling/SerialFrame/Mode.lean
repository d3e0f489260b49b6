import SerialFrame.Text.Quoted
import SerialFrame.Text.Blank

/-!
# Output modes

A finished frame is sent either as its bytes or as hex text.
-/

namespace SerialFrame

inductive Mode
  | text
  | hex
  deriving DecidableEq, Repr, Inhabited

namespace Mode

def name : Mode → String
  | text => "text"
  | hex => "hex"

def ofName? : String → Option Mode
  | "text" => some text
  | "hex" => some hex
  | _ => none

structure Unknown where
  value : String
  deriving DecidableEq, Repr

def Unknown.message (e : Unknown) : String :=
  "unknown output mode " ++ Text.quoted e.value ++ ", expected \"text\" or \"hex\""

/-- Reads a mode typed by a person: letter case and blanks around the name do not matter. -/
def parse (value : String) : Except Unknown Mode :=
  match ofName? (Text.lowerAscii (Text.trim value)) with
  | some mode => .ok mode
  | none => .error ⟨value⟩

end Mode

end SerialFrame
