import SsaLens.Dump
import SsaLens.Json.Decode

/-! # Dump records -/

namespace SsaLens.Dump

open Json

def toJson (dump : Dump) : Json :=
  obj [("ssaText", ofStrings dump.rows), ("sourceFileName", str dump.fileName)]

def ofJson? (json : Json) : Option Dump := do
  match ← json.fields? ["ssaText", "sourceFileName"] with
  | [rows, fileName] => pure ⟨← (← rows).asList? asString?, ← (← fileName).asString?⟩
  | _ => none

end SsaLens.Dump
