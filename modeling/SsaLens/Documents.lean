import SsaLens.SortedMap

/-! # Open documents

The newest text of each document that an editor has open, by URL.
-/

namespace SsaLens

structure Document where
  version : Int
  text : String
  deriving DecidableEq, Repr

abbrev Documents := SortedMap String Document

namespace Documents

def openWith (documents : Documents) (url : String) (version : Int) (text : String) : Documents :=
  documents.insert url ⟨version, text⟩

/-- The whole texts that a change goes through; the last one counts. A change that is older than
the document is passed over. A document that is not open counts as an empty one of version 0. -/
def change (documents : Documents) (url : String) (version : Int) (texts : List String) :
    Documents :=
  let held := (documents.get? url).getD ⟨0, ""⟩
  documents.insert url
    (if version < held.version then held else ⟨version, texts.getLast?.getD held.text⟩)

def close (documents : Documents) (url : String) : Documents := documents.erase url

end Documents

end SsaLens
