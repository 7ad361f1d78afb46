import ModuleId.Text.Split

/-! # The major-version suffix of a path

A path of major version 2 or more ends in an element such as `/v2`. Below the host `gopkg.in`
every path ends in a suffix such as `.v2`, which may carry a mark for unstable releases. -/

namespace ModuleId

open Text

/-- A path in two parts: what every major version shares, and the suffix, which may be empty. -/
structure MajorSplit where
  stem : String
  suffix : String
deriving DecidableEq, Repr

/-- How the paths start whose suffix begins with a dot. -/
def dottedHost : String :=
  "gopkg.in/"

/-- The mark for unstable releases. -/
def unstableMark : String :=
  "-unstable"

/-- Whether a path is split at a dot rather than at a slash. -/
def isDotted (path : List Char) : Bool :=
  dottedHost.toList.isPrefixOf path

/-- A text without its mark for unstable releases, and the mark. -/
def cutUnstable (s : List Char) : List Char × List Char :=
  match unstableMark.toList.isSuffixOf? s with
  | some rest => (rest, unstableMark.toList)
  | none => (s, [])

/-- Cuts a suffix such as `/v2` from a path. A path that ends otherwise has the empty suffix, but
a number that is `1`, starts with `0` or holds a dot is no major version. -/
def cutSlashed? (path : List Char) : Option (List Char × List Char) :=
  match splitTrailing (fun c => c.isDigit || c == '.') path with
  | (_, []) => some (path, [])
  | (head, number) =>
      match ['/', 'v'].isSuffixOf? head with
      | none => some (path, [])
      | some stem =>
          if number.contains '.' || number.head? == some '0' || number == ['1'] then none
          else some (stem, '/' :: 'v' :: number)

/-- Cuts a suffix such as `.v2` or `.v2-unstable` from a path, which must have one. What follows
`.v` may start with `0` only when it is `0`. -/
def cutDotted? (path : List Char) : Option (List Char × List Char) :=
  if isDotted path then
    let (body, mark) := cutUnstable path
    let (head, number) := splitTrailing Char.isDigit body
    let tail := number ++ mark
    match ['.', 'v'].isSuffixOf? head with
    | none => none
    | some stem =>
        if tail.isEmpty || (tail.head? == some '0' && tail != ['0']) then none
        else some (stem, '.' :: 'v' :: tail)
  else none

/-- Cuts the suffix in the manner of the path's host. -/
def cutMajor? (path : List Char) : Option (List Char × List Char) :=
  if isDotted path then cutDotted? path else cutSlashed? path

/-! ## Splitting strings -/

def MajorSplit.ofParts (parts : List Char × List Char) : MajorSplit where
  stem := String.ofList parts.1
  suffix := String.ofList parts.2

/-- The split of a path, or `none` when its suffix is malformed. -/
def splitMajor? (path : String) : Option MajorSplit :=
  (cutMajor? path.toList).map .ofParts

/-- The split of a path of the dotted host; `none` also for any other path. -/
def splitDotted? (path : String) : Option MajorSplit :=
  (cutDotted? path.toList).map .ofParts

end ModuleId
