import ModuleId.Release.Json
import ModuleId.Release.Order
import ModuleId.Text.Blank

/-! # Listings of releases

A listing has a release on each line that is not blank, as `path@version` or as a path and a
version between blanks. What follows the version in the second form is ignored. -/

namespace ModuleId

open Text

/-- A line that holds no release, by its number, counted from one, and its text without the
blanks around it. -/
structure LineError where
  line : Nat
  text : String
deriving DecidableEq, Repr

namespace Listing

/-! ## Reading -/

/-- The release on a line, if the line is not blank. A path before a version must not hold `@`. -/
def readLine (line : List Char) : Except String (Option Release) :=
  match fields line with
  | [] => .ok none
  | [only] => .ok (some (Release.ofText (String.ofList only)))
  | path :: version :: _ =>
      if path.contains '@' then .error (String.ofList (trim line))
      else .ok (some ⟨String.ofList path, String.ofList version⟩)

/-- The releases on lines of which the first has the given number. -/
def readLines (number : Nat) : List (List Char) → Except LineError (List Release)
  | [] => .ok []
  | line :: rest =>
      match readLine line with
      | .error text => .error ⟨number, text⟩
      | .ok none => readLines (number + 1) rest
      | .ok (some release) => (readLines (number + 1) rest).map (release :: ·)

/-- The releases of a listing in the order of its lines. -/
def read (text : String) : Except LineError (List Release) :=
  readLines 1 (text.toList.splitOn '\n')

/-! ## Printing -/

/-- The width of the column of paths, in characters. -/
def pathWidth : Nat :=
  50

/-- A release as a row: the path, filled up to its column, and the version. Without a version
the path stands alone. -/
def row (r : Release) : List Char :=
  if r.version.isEmpty then r.path.toList
  else r.path.toList ++ List.replicate (pathWidth - r.path.length) ' ' ++ ' ' :: r.version.toList

/-- The rows of some releases, each ended by a line feed. -/
def table (releases : List Release) : String :=
  String.ofList (releases.flatMap fun r => row r ++ ['\n'])

/-- Some releases as a JSON array. -/
def toJson (releases : List Release) : Json :=
  .array (releases.map Release.toJson)

end Listing

end ModuleId
