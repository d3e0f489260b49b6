import SerialFrame.Counter.Store
import SerialFrame.Hex.Render
import SerialFrame.Json.Parser
import SerialFrame.Json.Printer

/-!
# Counter stores in files

A store is an object from ids to values in hex. Values are written without separators and read
exactly.
-/

namespace SerialFrame.CounterStore

def toJson (s : CounterStore) : Json :=
  .ofFields (s.values.entries.map fun entry => (entry.1.text, .ofString (Hex.compact entry.2)))

def valueOfJson? (j : Json) : Option Bytes := do
  match Hex.readExact (← j.string?) with
  | .ok value => some value
  | .error _ => none

def ofJson? (j : Json) : Option CounterStore := do
  let entries ← (← j.fields?).mapM fun field => do
    return ((⟨field.1⟩ : TokenId), ← valueOfJson? field.2)
  return ⟨.ofList entries⟩

def parse (text : String) : Option CounterStore :=
  Json.parse text >>= ofJson?

end SerialFrame.CounterStore
