/-! # Parts of a host

A host is cut into parts at points or colons.
-/

namespace SsaLens.Url

/-- The parts of a text between separators, as the first one and the others. -/
def cutAt (separator : Char) : List Char → List Char × List (List Char)
  | [] => ([], [])
  | c :: rest =>
      if c = separator then ([], (cutAt separator rest).1 :: (cutAt separator rest).2)
      else (c :: (cutAt separator rest).1, (cutAt separator rest).2)

/-- The parts of a text between separators. -/
def parts (separator : Char) (text : List Char) : List (List Char) :=
  (cutAt separator text).1 :: (cutAt separator text).2

end SsaLens.Url
