import SerialFrame.Format.Counters
import SerialFrame.Format.Project
import SerialFrame.Sample.Projects

/-!
# Known answers

Checksums of fixed inputs and frames of fixed projects, for testing any implementation of the
format against. Frames are compiled at the fixed instant of the sample compilers.
-/

namespace SerialFrame.Sample

structure ChecksumVector where
  id : String
  description : String
  algorithm : String
  input : String
  expected : String

structure FrameVector where
  id : String
  description : String
  mode : Mode := .hex
  project : Project
  counters : CounterStore := .empty
  /-- The frame: hex digits without separators, or in text mode the text itself. -/
  expected : String
  expectedCounters : CounterStore := .empty

/-- The nine digits whose checksums are published as check values, in hex. -/
def checkInput : String := "313233343536373839"

def checksumVectors : List ChecksumVector :=
  let vector (id description : String) (algorithm : Checksum.Algorithm) (input expected : String) :=
    { id, description, algorithm := algorithm.name, input, expected : ChecksumVector }
  [vector "modbus_check" "CRC-16/MODBUS check value 0x4B37, low byte first" .crc16Modbus
      checkInput "374B",
    vector "modbus_read_10" "Read 10 holding registers from slave 1" .crc16Modbus
      "01030000000A" "C5CD",
    vector "modbus_read_1" "Read 1 holding register from slave 1" .crc16Modbus
      "010300000001" "840A",
    vector "modbus_empty" "Empty input yields the init value" .crc16Modbus "" "FFFF",
    vector "ccitt_check" "CRC-16/CCITT-FALSE check value" .crc16Ccitt checkInput "29B1",
    vector "ccitt_empty" "Empty input yields the init value" .crc16Ccitt "" "FFFF",
    vector "crc32_check" "CRC-32 check value" .crc32 checkInput "CBF43926",
    vector "crc32_empty" "Empty input" .crc32 "" "00000000"]

def oneCounter (id : String) (value : Bytes) : CounterStore :=
  CounterStore.empty.set ⟨id⟩ value

def frameVectors : List FrameVector :=
  let checksum (config : ChecksumConfig) := token "crc" (.checksum config)
  let seq := token "seq" (.counter { bytes := 2, currentValue := some "00FF" })
  let request := [literal "s1" "01 03 00 00 00 0A", reference "s2" "crc"]
  let counted := [literal "s1" "A5", reference "s2" "seq"]
  [{ id := "modbus_append"
     description := "Checksum over the whole buffer is appended"
     project := project request [checksum (wholeFrame .crc16Modbus)]
     expected := "01030000000AC5CD" },
    { id := "modbus_text"
      description := "Text mode renders the binary frame"
      mode := .text
      project := project request [checksum (wholeFrame .crc16Modbus)]
      expected := "01 03 00 00 00 0A C5 CD" },
    { id := "start_index_skips_flag"
      description := "Checksum starts after a leading flag"
      project := project
        [reference "s1" "sof", literal "s2" "01 03 00 00 00 01", reference "s3" "crc"]
        [token "sof" (.flag "7E"), checksum { wholeFrame .crc16Modbus with startIndex := 1 }]
      expected := "7E010300000001840A" },
    { id := "splice_before_tail"
      description := "Negative end index splices the checksum ahead of the trailer"
      project := project [literal "s1" "01 03 00 00 00 01 0D", reference "s2" "crc"]
        [checksum { wholeFrame .crc16Modbus with endIndex := -1 }]
      expected := "010300000001840A0D" },
    { id := "container_then_ccitt"
      description := "Hex container contents are covered by a later checksum"
      project := project
        [reference "s1" "head", literal "s2" "35 36 37 38 39", reference "s3" "crc"]
        [token "head" (.container (.ofSegments [literal "c1" "31 32 33 34"])),
          checksum (wholeFrame .crc16Ccitt)]
      expected := "31323334353637383929B1" },
    { id := "crc32_little_endian"
      description := "Byte order override on a CRC-32"
      project := project [literal "s1" "31 32 33 34 35 36 37 38 39", reference "s2" "crc"]
        [checksum { wholeFrame .crc32 with byteOrder := some .little }]
      expected := "3132333435363738392639F4CB" },
    { id := "counter_seeded_from_config"
      description := "First send emits the configured value"
      project := project counted [seq]
      expected := "A500FF"
      expectedCounters := oneCounter "seq" [0x01, 0x00] },
    { id := "counter_from_state"
      description := "Stored state wins over the configured value"
      project := project counted [seq]
      counters := oneCounter "seq" [0x12, 0x34]
      expected := "A51234"
      expectedCounters := oneCounter "seq" [0x12, 0x35] },
    { id := "timestamp_seconds"
      description := "Unix seconds, big-endian"
      project := project [literal "s1" "AA", reference "s2" "ts"] [token "ts" (.timestamp {})]
      expected := "AA6553F100" }]

def ChecksumVector.toJson (v : ChecksumVector) : Json :=
  .ofFields [("id", .ofString v.id), ("description", .ofString v.description),
    ("algorithm", .ofString v.algorithm), ("input_hex", .ofString v.input),
    ("expected_hex", .ofString v.expected)]

def FrameVector.toJson (v : FrameVector) : Json :=
  .ofFields [("id", .ofString v.id), ("description", .ofString v.description),
    ("mode", .ofString v.mode.name), ("project", v.project.toJson),
    ("counters", v.counters.toJson), ("expected", .ofString v.expected),
    ("expected_counters", v.expectedCounters.toJson)]

def allVectors : Json :=
  .ofFields [("checksum", .array (checksumVectors.map ChecksumVector.toJson)),
    ("frame", .array (frameVectors.map FrameVector.toJson))]

end SerialFrame.Sample
