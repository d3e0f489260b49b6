import SerialFrame.Bytes.Order
import SerialFrame.Checksum.Register
import SerialFrame.Text.Quoted
import SerialFrame.Text.Blank

/-!
# Checksum algorithms

The three CRCs that a frame may carry, their names, and the bytes that go on the wire.
-/

namespace SerialFrame.Checksum

inductive Algorithm
  | crc16Modbus
  | crc16Ccitt
  | crc32
  deriving DecidableEq, Repr, Inhabited

namespace Algorithm

def name : Algorithm → String
  | crc16Modbus => "crc16-modbus"
  | crc16Ccitt => "crc16-ccitt"
  | crc32 => "crc32"

def width : Algorithm → Nat
  | crc16Modbus | crc16Ccitt => 2
  | crc32 => 4

def naturalOrder : Algorithm → ByteOrder
  | crc16Modbus => .little
  | crc16Ccitt | crc32 => .big

def register : (a : Algorithm) → Register (8 * a.width)
  | crc16Modbus =>
    { polynomial := 0xA001#16, initial := 0xFFFF#16, final := 0#16, lowFirst := true }
  | crc16Ccitt =>
    { polynomial := 0x1021#16, initial := 0xFFFF#16, final := 0#16, lowFirst := false }
  | crc32 =>
    { polynomial := 0xEDB88320#32, initial := 0xFFFFFFFF#32, final := 0xFFFFFFFF#32,
      lowFirst := true }

def modbusTable : Vector (BitVec 16) 256 := (register crc16Modbus).table

def ccittTable : Vector (BitVec 16) 256 := (register crc16Ccitt).table

def crc32Table : Vector (BitVec 32) 256 := (register crc32).table

def table : (a : Algorithm) → Vector (BitVec (8 * a.width)) 256
  | crc16Modbus => modbusTable
  | crc16Ccitt => ccittTable
  | crc32 => crc32Table

def compute (a : Algorithm) (data : Bytes) : BitVec (8 * a.width) :=
  a.register.runTable a.table data

/-- The checksum of `data` as sent, in `order` or else in the natural one. -/
def checksumBytes (a : Algorithm) (data : Bytes) (order : Option ByteOrder) : Bytes :=
  (order.getD a.naturalOrder).encode (a.compute data).toNat a.width

@[simp]
theorem length_checksumBytes (a : Algorithm) (data : Bytes) (order : Option ByteOrder) :
    (a.checksumBytes data order).length = a.width := by
  simp [checksumBytes]

/-! ### Names -/

def separators : List Char := ['-', '_', ' ', '/']

/-- What is compared of a name: its characters other than separators, in lower case. -/
def key (name : String) : String :=
  Text.lowerAscii (String.ofList (name.toList.filter fun c => !separators.contains c))

def ofKey? : String → Option Algorithm
  | "crc16modbus" | "modbus" | "modbuscrc16" | "modbuscrc" => some crc16Modbus
  | "crc16ccitt" | "ccitt" | "crcccitt" | "crc16ccittfalse" => some crc16Ccitt
  | "crc32" | "crc32ieee" => some crc32
  | _ => none

def ofName? (name : String) : Option Algorithm :=
  ofKey? (key name)

structure Unknown where
  name : String
  deriving DecidableEq, Repr

def Unknown.message (e : Unknown) : String :=
  "unsupported checksum algorithm: " ++ Text.quoted e.name

def parse (name : String) : Except Unknown Algorithm :=
  match ofName? name with
  | some a => .ok a
  | none => .error ⟨name⟩

end Algorithm

end SerialFrame.Checksum
