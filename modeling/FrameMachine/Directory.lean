/-! The files that a program can see: each has a path, from the root or from the working directory, and a
content. A directory is there if the path of a file goes through it, or if the working directory is it or
lies below it. The working directory itself has a path from the root. -/

namespace FrameMachine

structure Directory where
  /-- The path from the root to the working directory. -/
  location : String
  files : List (String × String)
deriving Inhabited

namespace Directory

/-- The names that a path is made of, between its slashes. -/
def names (path : String) : List String := (path.toList.splitOn '/').map String.ofList

/-- A place is given by the names that lead to it from the root. -/
abbrev Place := List String

/-- The place that a name leads to. An empty name and a single point lead nowhere else, and two points
lead upwards, as far as the root. -/
def Place.enter (place : Place) (name : String) : Place :=
  if name = "" ∨ name = "." then place
  else if name = ".." then place.dropLast
  else place ++ [name]

/-- The places that lie on the way through some names, before the last one. -/
def Place.onTheWay (place : Place) : List String → List Place
  | [] => []
  | [_] => []
  | name :: rest => place.enter name :: onTheWay (place.enter name) rest

/-- The place of the working directory. -/
def here (directory : Directory) : Place := (names directory.location).foldl Place.enter []

/-- The place that a path starts from. -/
def start (directory : Directory) (path : String) : Place :=
  if path.startsWith "/" then [] else directory.here

/-- The place that a path leads to. -/
def placeOf (directory : Directory) (path : String) : Place :=
  (names path).foldl Place.enter (directory.start path)

/-- Whether a place is a directory, so that further names may follow. -/
def hasDirectory (directory : Directory) (place : Place) : Bool :=
  place.isPrefixOf directory.here ||
    directory.files.any fun (path, _) =>
      (Place.onTheWay (directory.start path) (names path)).contains place

/-- Follows names from a place, to the place of a file. Names that end in nothing, or in points,
lead to no file. -/
def follow (directory : Directory) (place : Place) : List String → Option Place
  | [] => none
  | [name] => if name = "" ∨ name = "." ∨ name = ".." then none else some (place ++ [name])
  | name :: rest =>
    if directory.hasDirectory (place.enter name) then follow directory (place.enter name) rest
    else none

/-- The content of the file at a place. Of two contents the later one stays. -/
def content? (directory : Directory) (place : Place) : Option String :=
  (directory.files.reverse.find? fun (path, _) => directory.placeOf path == place).map (·.2)

/-- The bytes that a path may have. -/
def maxPathSize : Nat := 4095

/-- The content of the file that a path leads to. -/
def read? (directory : Directory) (path : String) : Option String :=
  if maxPathSize < path.utf8ByteSize then none
  else (directory.follow (directory.start path) (names path)).bind directory.content?

/-- The path from the root that a path stands for. -/
def fullPath (directory : Directory) (path : String) : String :=
  if path.startsWith "/" then path else directory.location ++ "/" ++ path

/-- The content of the file that a path leads to, if the full path is not too long either. -/
def readInFull? (directory : Directory) (path : String) : Option String :=
  if maxPathSize < (directory.fullPath path).utf8ByteSize then none else directory.read? path

/-- The content of the nearest file with a name, in a directory or in those above it. The directory is
given by the names that lead up from it. -/
def nearest? (directory : Directory) (name : String) : List String → Option String
  | [] => directory.content? [name]
  | last :: above =>
    match directory.content? ((last :: above).reverse ++ [name]) with
    | some text => some text
    | none => nearest? directory name above

/-- The content of the nearest file with a name, in the working directory or in those above it. The search
ends at once if the full path is too long. -/
def readUpward? (directory : Directory) (name : String) : Option String :=
  if maxPathSize < (directory.fullPath name).utf8ByteSize then none
  else directory.nearest? name directory.here.reverse

end Directory

end FrameMachine
