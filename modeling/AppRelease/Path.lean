import AppRelease.Text.Cut

/-!
# Paths as texts

Program: `join` puts one path below another without tidying up; `Path.steps` reads a path as the
steps it takes through directories.
-/

namespace AppRelease.Path

/-- Whether a path starts at the root of the file system. -/
def isAbsolute (path : String) : Bool := path.toList.head? == some '/'

/-- The path `below` seen from `base`: an absolute path stands alone, and one stroke goes between
the two where none is there. -/
def join (base below : String) : String :=
  if isAbsolute below then below
  else if base.toList.getLast? == none || base.toList.getLast? == some '/' then base ++ below
  else base ++ "/" ++ below

/-- One step of a path. -/
inductive Step where
  | up
  | into (name : String)
  deriving DecidableEq, Repr

/-- The steps of a path. Empty names and single dots go nowhere. -/
def steps (path : String) : List Step :=
  (Text.pieces '/' path.toList).filterMap fun piece =>
    if piece = [] then none
    else if piece = ['.'] then none
    else if piece = ['.', '.'] then some .up
    else some (.into (String.ofList piece))

/-- Whether the path asks for a directory by its end: a stroke or a single dot. -/
def endsInDirectory (path : String) : Bool :=
  match (Text.pieces '/' path.toList).getLast? with
  | some piece => piece = [] || piece = ['.']
  | none => false

/-- Whether the last name of the path, strokes at the end apart, is a single dot. -/
def endsInDot (path : String) : Bool :=
  ((Text.pieces '/' path.toList).filter (· ≠ [])).getLast? == some ['.']

/-- The path up to the last stroke, with it. -/
def parent (path : String) : String :=
  String.ofList ((path.toList.reverse.dropWhile (· ≠ '/')).reverse)

end AppRelease.Path
