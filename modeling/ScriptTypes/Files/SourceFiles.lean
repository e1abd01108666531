import ScriptTypes.Dialect
import ScriptTypes.Event
import ScriptTypes.Files.Disk

/-!
# The source files below a path

A path that leads to a file stands for itself, if it is a source. A folder stands for the
sources in it and below it, in the order of their names level by level; files and
folders are sorted together. Hidden folders and those that hold other people's code
or build products are passed over, but not where the search starts.

A folder that cannot be listed is logged and holds no sources. What is listed must be
looked at, to tell folders from everything else: an entry at which that is refused, because
its path is too long or its folder cannot be searched, ends the search.
-/

namespace ScriptTypes.Files

/-- The names of folders that hold other people's code or build products. -/
def ignoredFolders : List String :=
  ["node_modules", "bower_components", "vendor", "dist", "build", "coverage"]

/-- Whether a folder of the name is passed over. -/
def isIgnored (name : String) : Bool :=
  name.startsWith "." || ignoredFolders.contains name

/-- What a search found, and what was logged meanwhile. -/
structure Found where
  /-- The paths of the sources. -/
  paths : List Path := []
  /-- What was logged. -/
  log : List Event := []
  /-- What ended the search too early, if anything did. -/
  failure : Option Refusal := none

/-- What was found in several places, in their order, up to the first failure. -/
def Found.join : List Found → Found
  | [] => {}
  | f :: fs =>
    match f.failure with
    | some _ => f
    | none =>
      let rest := join fs
      ⟨f.paths ++ rest.paths, f.log ++ rest.log, rest.failure⟩

/-- The path itself, if it is that of a source. -/
def Found.here (path : Path) : Found := { paths := if Dialect.isSource path then [path] else [] }

/-- Nothing, because the folder at the path cannot be listed. -/
def Found.unlisted (path : Path) (cause : Cause) : Found :=
  { log := [.unlistedFolder path.text (Refusal.message ⟨cause, path.text⟩)] }

/-- Nothing, because what is at the path cannot be looked at, and nothing after it. -/
def Found.broken (path : Path) (cause : Cause) : Found := { failure := some ⟨cause, path.text⟩ }

/-- What was found in the entries of a folder, in the order of their names. -/
def Found.inNameOrder (found : List (String × Found)) : Found :=
  .join ((found.mergeSort fun a b => decide (a.1 ≤ b.1)).map (·.2))

/-- What was found as a result, or the failure in its place. -/
def Found.outcome (found : Found) : Logged (List Path) where
  log := found.log
  result :=
    match found.failure with
    | some refusal => .error (.refused refusal)
    | none => .ok found.paths

/-- The sources at an entry of the folder at a path, if `below` gives those of folders. -/
def searchEntry (d : Disk) (below : Path → Found) (path : Path) (name : String) : Found :=
  match d.holds Entry.isFolder (path.child name) with
  | .error cause => .broken (path.child name) cause
  | .ok true => if isIgnored name then {} else below (path.child name)
  | .ok false => .here (path.child name)

/-- The sources at and below a path, down to some depth. What is deeper has too long a path. -/
def search (d : Disk) : Nat → Path → Found
  | 0, path => .broken path .nameTooLong
  | depth + 1, path =>
    match d.holds Entry.isFile path with
    | .error cause => .broken path cause
    | .ok true => .here path
    | .ok false =>
      match d.list path with
      | .error cause => .unlisted path cause
      | .ok names =>
        .inNameOrder (names.map fun name => (name, searchEntry d (search d depth) path name))

/-- The depth of a search: each name of a path has a byte, and so has each slash before one. -/
def searchDepth : Nat := maxPathBytes + 2

/-- The sources at and below a path; a folder that cannot be listed holds none. -/
def sources (d : Disk) (path : Path) : Logged (List Path) :=
  if path.holdsNul then ⟨[], .error .nulInPath⟩ else (search d searchDepth path).outcome

end ScriptTypes.Files
