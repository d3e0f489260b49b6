import SerialFrame.Format.Token
import SerialFrame.Json.Parser
import SerialFrame.Json.Printer
import SerialFrame.Project

/-!
# Project files

A project is an object with the `segments` of its template and its `tokens`, either of which may be
missing.
-/

namespace SerialFrame.Project

open Format

def fieldNames : List String := ["segments", "tokens"]

def toJson (p : Project) : Json :=
  .ofFields [("segments", p.template.toJson), ("tokens", p.tokens.toJson)]

def ofJson? (j : Json) : Option Project := do
  let fields ← recordFields? fieldNames j
  return {
    template := ← fields.optional "segments" .empty (Template.ofJson? 2)
    tokens := ← fields.optional "tokens" .empty (TokenTable.ofJson? 2) }

def parse (text : String) : Option Project :=
  Json.parse text >>= ofJson?

end SerialFrame.Project
