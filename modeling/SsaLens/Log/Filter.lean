import SsaLens.Log.Directive

/-! # Log filters

A filter is a list of directives separated by commas. The most precise directive that concerns an
entry decides on it.
-/

namespace SsaLens

abbrev LogFilter := List LogDirective

namespace LogFilter

/-- Warnings and errors of the program itself. -/
def standard : LogFilter :=
  [{ scope := some "gossa_core", level := some .warn },
    { scope := some "gossa_cli", level := some .warn }]

/-- The directives of an expression, if all of them can be read. An expression without any asks
for errors. -/
def parse? (expression : String) : Option LogFilter :=
  (((expression.splitOn ",").filter (· ≠ "")).mapM LogDirective.parse?).map fun directives =>
    if directives = [] then [{ level := some .error }] else directives

/-- The directive that decides on an entry: of the most precise ones the last. -/
def decisive? (filter : LogFilter) (entry : LogEntry) : Option LogDirective :=
  filter.foldl (fun best directive =>
    if directive.concerns entry && best.all (!·.isPreciserThan directive) then some directive
    else best) none

def admits (filter : LogFilter) (entry : LogEntry) : Bool :=
  (filter.decisive? entry).any (·.admits entry)

/-- A switch is on unless it is blank or one of the words for off. -/
def isOn (value : String) : Bool :=
  let word := (Text.trimmed value).toLower
  word ≠ "" && word ≠ "0" && word ≠ "false" && word ≠ "off"

/-- The expression that a switch holds, unless it is blank or one of the words for on. -/
def expression? (value : String) : Option String :=
  let word := (Text.trimmed value).toLower
  if word = "" ∨ word = "1" ∨ word = "true" ∨ word = "on" then none else some (Text.trimmed value)

/-- The expression that a switch that is on asks for. -/
def requested (value : String) : String :=
  (expression? value).getD "gossa_core=debug,gossa_cli=debug"

/-- The filter that two variables ask for. A switch that is on wins over the general expression;
an expression that cannot be read is passed over. -/
def ofVariables (switch general : Option String) : LogFilter :=
  match (switch.filter isOn).map requested <|> general with
  | some expression => (parse? expression).getD standard
  | none => standard

end LogFilter

end SsaLens
