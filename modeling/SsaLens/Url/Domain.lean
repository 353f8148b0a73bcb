import SsaLens.Url.Domain.Direction
import SsaLens.Url.Domain.Joining
import SsaLens.Url.Domain.Mapping
import SsaLens.Url.Domain.Punycode
import SsaLens.Url.Parts

/-! # Domain names

A domain name is a sequence of labels with points between them. It has one written form, with ASCII
characters only: characters that stand for others are replaced, letters are composed with their
marks, and a label with other characters is written in Punycode after `xn--`.
-/

namespace SsaLens.Url.Domain

/-- The ASCII characters that no name has. -/
def isForbidden (c : Char) : Bool :=
  c.toNat ≤ 0x20 || c.toNat = 0x7f || "%#/:<>?@[\\]^|".toList.contains c

def isAscii (text : List Char) : Bool := text.all (·.toNat < 0x80)

def marker : List Char := ['x', 'n', '-', '-']

/-- The longest Punycode that is read, and the longest label that is written in it. -/
def codeLimit : Nat := 2000

def labelLimit : Nat := 1000

/-- A label that is not ASCII and may be written in Punycode. -/
def isFit (label : List Char) : Bool :=
  !label.head?.any isMark && joinersFit [] label && label.length ≤ labelLimit

/-- The label that Punycode stands for. It has to be one that is written so. -/
def ofCode? (code : List Char) : Option (List Char) := do
  if code = [] ∨ code.getLast? = some '-' ∨ codeLimit < code.length then none
  let label ← Punycode.decode? code
  if label.all (fun c => isKept c && !isForbidden c && c ≠ '.') ∧ composed label = label ∧
      isFit label ∧ ¬marker.isPrefixOf label then some label
  else none

/-- The characters of a label. -/
def read? (label : List Char) : Option (List Char) :=
  if marker.isPrefixOf label then
    if isAscii label then ofCode? (label.drop marker.length) else none
  else if isAscii label ∨ isFit label then some label
  else none

/-- The written form of a label. -/
def write (label : List Char) : List Char :=
  if isAscii label then label else marker ++ Punycode.encode label

/-- The characters that a name stands for, if it has no others. -/
def normal? (name : List Char) : Option (List Char) := do
  let normal := composed (← name.mapM mapped?).flatten
  if normal.any isForbidden then none else some normal

/-- A name of ASCII characters without Punycode is its own written form but for capitals. -/
def isPlain (name : List Char) : Bool :=
  isAscii name && !(parts '.' (name.map Char.toLower)).any marker.isPrefixOf

/-- The written form of a name. -/
def ofText? (name : List Char) : Option (List Char) :=
  if isPlain name then
    if name.any isForbidden then none else some (name.map Char.toLower)
  else do
    let labels ← (parts '.' (← normal? name)).mapM read?
    if keepsDirection labels then some (['.'].intercalate (labels.map write)) else none

end SsaLens.Url.Domain
