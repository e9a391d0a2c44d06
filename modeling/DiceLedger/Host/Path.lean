/-! # Paths

A path is text with its parts between slashes, and one that starts with a slash is
absolute. Joining and taking the parent work on the text as it stands; `normal` is the
one form of all absolute paths that lead to the same place.
-/

namespace DiceLedger

namespace Path

def isAbsolute (path : String) : Bool := path.toList.head? = some '/'

/-- The path that leads from a folder along another path; an absolute one replaces the
folder. -/
def join (folder path : String) : String :=
  if isAbsolute path then path
  else if folder = "" || folder.toList.getLast? = some '/' then folder ++ path
  else folder ++ "/" ++ path

/-- What stands before the last slash, without the slashes at its end unless it holds
nothing else. -/
def parent (path : String) : String :=
  let front := (path.toList.reverse.dropWhile (· ≠ '/')).reverse
  let trimmed := (front.reverse.dropWhile (· = '/')).reverse
  String.ofList (if trimmed.isEmpty then front else trimmed)

/-- The pieces of a text between slashes. -/
def pieces (text : List Char) : List (List Char) :=
  match text with
  | [] => [[]]
  | c :: rest =>
    match c, pieces rest with
    | '/', others => [] :: others
    | c, first :: others => (c :: first) :: others
    | c, [] => [[c]]

/-- One step from a place whose parts are given from the innermost out: an empty part
and a point stay, two points lead to the folder around it. -/
def step (inside : List (List Char)) (part : List Char) : List (List Char) :=
  if part = [] || part = ['.'] then inside
  else if part = ['.', '.'] then inside.tail
  else part :: inside

/-- The parts of an absolute path from the innermost out, as one walks along it. -/
def walk (path : String) : List (List Char) := (pieces path.toList).foldl step []

/-- The absolute path of parts that are given from the innermost out. -/
def ofWalk (inside : List (List Char)) : String :=
  String.ofList ('/' :: ['/'].intercalate inside.reverse)

/-- An absolute path without empty parts, single points and double points. -/
def normal (path : String) : String := ofWalk (walk path)

end Path

end DiceLedger
