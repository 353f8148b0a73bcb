import SsaLens.Path
import SsaLens.Url.Percent

/-! # URLs

A URL is kept in its written form, part by part. One that has a path and no foreign host names a
file.
-/

namespace SsaLens

/-- A URL in its parts, each of them encoded. -/
structure Url where
  scheme : String
  /-- The user, host and port after two slashes. -/
  authority : Option (String × String × String)
  path : String
  query : Option String
  fragment : Option String
  deriving DecidableEq, Repr

namespace Url

def host (url : Url) : String := (url.authority.map (·.2.1)).getD ""

/-- The written form. A path that could be taken for an authority has a dot in front. -/
def text (url : Url) : String :=
  url.scheme ++ ":" ++
    (match url.authority with
      | some (user, host, port) => "//" ++ user ++ host ++ port
      | none => if ['/', '/'].isPrefixOf url.path.toList then "/." else "") ++
    url.path ++
    (match url.query with
      | some query => "?" ++ query
      | none => "") ++
    (match url.fragment with
      | some fragment => "#" ++ fragment
      | none => "")

/-- A drive letter at the end of a file name is followed by a slash. -/
def closeDrive (bytes : List UInt8) : List UInt8 :=
  match bytes.reverse with
  | mark :: letter :: _ :: _ =>
      if (mark = 0x3a ∨ mark = 0x7c) ∧ (Char.ofNat letter.toNat).isAlpha then bytes ++ [0x2f]
      else bytes
  | _ => bytes

/-- The file that a URL names: its path is absolute, and it has no host but this one. -/
def file? (url : Url) : Option Path :=
  if url.path.toList.head? = some '/' ∧ (url.host = "" ∨ url.host = "localhost") then
    some (Text.Utf8.decode (closeDrive (Percent.decode url.path.toList)))
  else none

/-- The workspace name of the file that a URL names. -/
def fileName? (root : Path) (url : Url) : Option String := do root.fileName? (← url.file?)

/-- The URL is that of a Go source file. -/
def isGo (url : Url) : Bool := ['.', 'g', 'o'].isSuffixOf url.path.toList

end Url

end SsaLens
