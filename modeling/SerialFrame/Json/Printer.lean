import SerialFrame.Hex.Render
import SerialFrame.Json.Layout

/-!
# Writing JSON

A document is written in a layout, which says what blanks stand between its parts. In strings only
the quote, the backslash and the controls below U+0020 are escaped.
-/

namespace SerialFrame.Json

def unitEscape (unit : Nat) : List Char :=
  let digit (n : Nat) : Char := (Hex.digit (.ofNat n)).toLower
  ['\\', 'u', digit (unit / 4096), digit (unit / 256), digit (unit / 16), digit unit]

def charEscape (c : Char) : List Char :=
  match c with
  | '"' => ['\\', '"']
  | '\\' => ['\\', '\\']
  | '\x08' => ['\\', 'b']
  | '\x0c' => ['\\', 'f']
  | '\n' => ['\\', 'n']
  | '\r' => ['\\', 'r']
  | '\t' => ['\\', 't']
  | c => if c.toNat < 0x20 then unitEscape c.toNat else [c]

def StringItem.written : StringItem → List Char
  | .char c => charEscape c
  | .surrogate unit => unitEscape unit

def Text.written (text : Text) : List Char :=
  '"' :: text.flatMap StringItem.written ++ ['"']

def Numeral.written (n : Numeral) : List Char :=
  (if n.negative then ['-'] else []) ++ n.whole ++
    (match n.fraction with
    | some digits => '.' :: digits
    | none => []) ++
    (match n.exponent with
    | some (negative, digits) => 'e' :: (if negative then '-' :: digits else digits)
    | none => [])

namespace Layout

variable (l : Layout)

mutual

/-- A value that starts on a line of the given level. -/
def written (level : Nat) : Json → List Char
  | .null => ['n', 'u', 'l', 'l']
  | .bool true => ['t', 'r', 'u', 'e']
  | .bool false => ['f', 'a', 'l', 's', 'e']
  | .number n => n.written
  | .string text => text.written
  | .array [] => ['[', ']']
  | .array elements => '[' :: writtenElements (level + 1) elements ++ (l.line level ++ [']'])
  | .object [] => ['\x7b', '\x7d']
  | .object members => '\x7b' :: writtenMembers (level + 1) members ++ (l.line level ++ ['\x7d'])

def writtenElements (level : Nat) : List Json → List Char
  | [] => []
  | [element] => l.line level ++ written level element
  | element :: rest => l.line level ++ written level element ++ ',' :: writtenElements level rest

def writtenMembers (level : Nat) : List (Text × Json) → List Char
  | [] => []
  | [(key, value)] => l.line level ++ key.written ++ ':' :: (l.gap ++ written level value)
  | (key, value) :: rest =>
    l.line level ++ key.written ++ ':' :: (l.gap ++ written level value) ++
      ',' :: writtenMembers level rest

end

end Layout

def compact (j : Json) : String :=
  String.ofList (Layout.compact.written 0 j)

def pretty (j : Json) : String :=
  String.ofList (Layout.pretty.written 0 j)

end SerialFrame.Json
