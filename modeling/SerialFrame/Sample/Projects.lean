import SerialFrame.Project

/-!
# Sample projects

Two small projects and compilers that do not depend on the time of day.
-/

namespace SerialFrame.Sample

/-- The instant of sample compiles: 2023-11-14, 22:13:20 UTC. -/
def fixedClock : Clock := ⟨1700000000000⟩

def fixedCompiler (mode : Mode) : Compiler :=
  { options := { mode }, clock := fixedClock }

def strictCompiler (mode : Mode) : Compiler :=
  { options := { mode, strict := true }, clock := fixedClock }

def literal (id content : String) : Segment :=
  .literal ⟨id⟩ content

def reference (id token : String) : Segment :=
  .token ⟨id⟩ ⟨token⟩

def token (id : String) (kind : TokenKind) : Token :=
  { id := ⟨id⟩, kind }

def wholeFrame (algorithm : Checksum.Algorithm) : ChecksumConfig :=
  { algorithm := algorithm.name }

def project (segments : List Segment) (tokens : List Token) : Project :=
  { template := .ofSegments segments, tokens := .ofTokens tokens }

/-- Modbus RTU: read ten holding registers of device 1. -/
def modbusRead : Project :=
  project [literal "payload" "01 03 00 00 00 0A", reference "crc-ref" "crc"]
    [{ token "crc" (.checksum (wholeFrame .crc16Modbus)) with name := "Modbus CRC" }]

/-- A packet with a one-byte sequence number that is about to run over. The checksum leaves out the
leading flag and stands before the trailing byte. -/
def sequenced : Project :=
  project
    [reference "s1" "sof", reference "s2" "seq", literal "s3" "10 20 0D", reference "s4" "crc"]
    [token "sof" (.flag "7E"),
      token "seq" (.counter { bytes := 1, currentValue := some "FE" }),
      token "crc"
        (.checksum { wholeFrame .crc16Ccitt with startIndex := 1, endIndex := -1 })]

def named? : String → Option Project
  | "modbus_read" => some modbusRead
  | "sequenced" => some sequenced
  | _ => none

end SerialFrame.Sample
