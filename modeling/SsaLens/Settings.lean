import SsaLens.Json.Decode
import SsaLens.Text.Blank
import SsaLens.Toolchain

/-! # Settings

What a client can configure. An answer of the client replaces what it mentions; a compiler once
named is kept until another one is.
-/

namespace SsaLens

structure Settings where
  binary : Option String
  environment : SortedMap String String
  hintsEnabled : Bool
  maxConcurrent : Nat
  deriving DecidableEq

/-- The part of a client's configuration that is about this program, as far as it is given. -/
structure Configuration where
  binary : Option String
  environment : Option (SortedMap String String)
  hintsEnabled : Option Bool
  maxConcurrent : Option Nat
  deriving DecidableEq

namespace Configuration

open Json

def environment? : Json → Option (SortedMap String String)
  | obj fields => do
      let entries ← fields.mapM fun (name, value) => do pure (name, (← value.asString?))
      pure (.ofEntries entries)
  | _ => none

/-- The only field of a group of settings. -/
def member? {α : Type} (name : String) (decode : Json → Option α) (json : Json) :
    Option (Option α) := do
  match ← json.fields? [name] with
  | [value] => optional? decode value
  | _ => none

/-- Read a configuration. Unlike a setting, a group of settings may not be null. -/
def ofJson? (json : Json) : Option Configuration := do
  match ← json.fields? ["goBinary", "env", "inlayHints", "performance"] with
  | [binary, environment, hints, performance] =>
      pure ⟨← optional? asString? binary, ← optional? environment? environment,
        ← default? none (member? "enabled" asBool?) hints,
        ← default? none (member? "maxConcurrent" asNat?) performance⟩
  | _ => none

end Configuration

namespace Settings

def initial : Settings := ⟨none, ∅, true, 2⟩

/-- Take over a configuration. A blank compiler and a limit of zero count as not given; hints are
on unless they are switched off. -/
def merge (settings : Settings) (configuration : Configuration) : Settings where
  binary := (configuration.binary.filter fun name => Text.trimmed name ≠ "") <|> settings.binary
  environment := configuration.environment.getD settings.environment
  hintsEnabled := configuration.hintsEnabled.getD true
  maxConcurrent := (configuration.maxConcurrent.filter (0 < ·)).getD settings.maxConcurrent

/-- The toolchain of the settings: a named compiler wins over the one of the environment. -/
def toolchain (settings : Settings) (named : Option String) : Toolchain :=
  let toolchain := Toolchain.ofVariable named
  (match settings.binary with
    | some binary => toolchain.withBinary binary
    | none => toolchain).withEnvironment settings.environment.entries

end Settings

end SsaLens
