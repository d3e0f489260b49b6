import SerialFrame.Text.GraphemeExtend
import SerialFrame.Text.Unprintable

/-!
# Quoted text in messages

A text stands between double quotes and a character between single ones. The delimiter, the
backslash and all that cannot be seen on its own are escaped, so that a message is one line and
shows each character.
-/

namespace SerialFrame.Text

def hexNumeral (n : Nat) : List Char :=
  Nat.toDigits 16 n

/-- One character of a quoted text, `delimiter` being the quote around it. -/
def quoteItem (delimiter c : Char) : List Char :=
  if c = '\t' then ['\\', 't']
  else if c = '\r' then ['\\', 'r']
  else if c = '\n' then ['\\', 'n']
  else if c = '\x00' then ['\\', '0']
  else if c = '\\' ∨ c = delimiter then ['\\', c]
  else if extendsGrapheme c || isUnprintable c then
    ['\\', 'u', '\x7b'] ++ hexNumeral c.toNat ++ ['\x7d']
  else [c]

def quoted (text : String) : String :=
  String.ofList ('"' :: text.toList.flatMap (quoteItem '"') ++ ['"'])

def quotedChar (c : Char) : String :=
  String.ofList ('\x27' :: quoteItem '\x27' c ++ ['\x27'])

end SerialFrame.Text
