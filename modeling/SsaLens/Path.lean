import SsaLens.Text.Utf8

/-! # Paths

A path is a text in which some bytes may not be decodable. It means the sequence of its
components: repeated and closing slashes do not count, nor does a dot that stands for the
directory it is in, unless the path begins with it.
-/

namespace SsaLens

open Text.Utf8 (Piece)

/-- A path as it is written. -/
abbrev Path := List Piece

namespace Path

/-- A step of a path. -/
inductive Component where
  | root
  | here
  | up
  | name (text : Path)
  deriving DecidableEq, Repr

def ofString (text : String) : Path := text.toList.map .char

/-- The text of a path, with a replacement character for each undecodable piece. -/
def shown (path : Path) : String := String.ofList (path.map Piece.shown)

def slash : Piece := .char '/'

/-- The first segment between slashes and the others. -/
def cut : Path → Path × List Path
  | [] => ([], [])
  | piece :: rest =>
      if piece = slash then ([], (cut rest).1 :: (cut rest).2)
      else (piece :: (cut rest).1, (cut rest).2)

def segments (path : Path) : List Path := (cut path).1 :: (cut path).2

def dot : Path := [.char '.']

def dots : Path := [.char '.', .char '.']

/-- The component of a segment that does not begin the path. -/
def inner? (segment : Path) : Option Component :=
  if segment = [] ∨ segment = dot then none
  else if segment = dots then some .up
  else some (.name segment)

/-- The component of the segment that begins the path. -/
def first? (path segment : Path) : Option Component :=
  if segment = [] then (if path = [] then none else some .root)
  else if segment = dot then some .here
  else inner? segment

def components (path : Path) : List Component :=
  (first? path (cut path).1).toList ++ (cut path).2.filterMap inner?

/-- The path goes up somewhere. -/
def climbs (path : Path) : Bool := path.components.contains .up

/-- The names of components that are all names. -/
def names? : List Component → Option (List Path)
  | [] => some []
  | .name text :: rest => (names? rest).map (text :: ·)
  | _ => none

/-- The components after those of a root. -/
def below? (root path : Path) : Option (List Component) :=
  if root.components.isPrefixOf path.components then
    some (path.components.drop root.components.length)
  else none

/-- The workspace name of a file below a root: its names, each after a slash. A path that is not
below the root, is the root itself, or goes up on its way has none. -/
def fileName? (root path : Path) : Option String := do
  let names ← names? (← below? root path)
  if names = [] then none else some (String.join (names.map fun name => "/" ++ shown name))

end Path

end SsaLens
