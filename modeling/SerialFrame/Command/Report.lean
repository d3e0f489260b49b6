import SerialFrame.Command.Compile

/-!
# Reports of compiles

A report is printed for people, or as JSON for programs.
-/

namespace SerialFrame

def padRight (width : Nat) (text : String) : String :=
  text ++ String.ofList (List.replicate (width - text.length) ' ')

namespace CompileReport

variable (r : CompileReport)

def placementJson (p : Placement) : Json :=
  .ofFields [("token", .ofString p.token.text), ("algorithm", .ofString p.algorithm.name),
    ("start", .ofNat p.start), ("end", .ofNat p.offset), ("offset", .ofNat p.offset),
    ("value", .ofString (Hex.compact p.value))]

def toJson : Json :=
  .ofFields [("project", .ofString r.project), ("mode", .ofString r.mode.name),
    ("length", .ofNat r.frame.raw.length), ("frame", .ofString r.frame.hexText),
    ("checksums", .array (r.frame.checksums.map placementJson)),
    ("warnings", .array (r.frame.warnings.map fun w => .ofString w.message)),
    ("counters", r.frame.counters.toJson)]

def placementLine (p : Placement) : String :=
  "  " ++ padRight 12 p.token.text ++ " " ++ padRight 14 p.algorithm.name ++ " bytes " ++
    p.start.repr ++ ".." ++ p.offset.repr ++ " at " ++ p.offset.repr ++ "  " ++ Hex.compact p.value

def counterLine (entry : TokenId × Bytes) : String :=
  "  " ++ padRight 12 entry.1.text ++ " " ++ Hex.compact entry.2

/-- A list under its heading, left out if it is empty. -/
def listing (heading : String) (lines : List String) : List String :=
  if lines.isEmpty then [] else "" :: heading :: lines

def lines : List String :=
  ["Frame (" ++ r.frame.raw.length.repr ++ " bytes, " ++ r.mode.name ++ " mode):",
    "  " ++ r.frame.hexText] ++
    listing "Checksums:" (r.frame.checksums.map placementLine) ++
    listing "Counters:" (r.frame.counters.values.entries.map counterLine) ++
    listing "Warnings:" (r.frame.warnings.map fun w => "  ! " ++ w.message)

end CompileReport

end SerialFrame
