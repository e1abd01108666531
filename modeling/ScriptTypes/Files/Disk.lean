import ScriptTypes.Files.Path
import ScriptTypes.Files.Refusal
import ScriptTypes.Named

/-!
# Disks

A disk is a tree of folders, files and links, with a working folder somewhere in it, together
with what its system denies on top of what the tree makes impossible. Each thing has a place, its
*location*: the names from the root down. No two locations share a file, but a link is another
way to a place, so two paths may lead to one.

A path is followed name by name, from the root or from the working folder. Each name is looked for
in the folder that was come to, if that can be searched; two dots lead one folder up, from the root
to itself; and from a link the way goes on where the link leads, unless there are too many of them.

Names and paths have a greatest length. A longer name is refused where a folder would be
searched for it, a longer path before anything is searched.

A write first empties the file, or makes it, and then puts in the bytes, so one that breaks
off leaves a part of them behind.
-/

namespace ScriptTypes.Files

/-- A file with its bytes, a folder with its entries by name, or a link. -/
inductive Entry where
  /-- A file. -/
  | file (content : List UInt8)
  /-- A folder. -/
  | folder (entries : List (String × Entry))
  /-- A link to a path, which starts at the folder of the link if it does not start at the root. -/
  | link (target : Path)

/-- The names from the root down to a place. -/
abbrev Location := List String

/-- The number of bytes that a name can have. -/
def maxNameBytes : Nat := 255

/-- The number of bytes that a path can have. -/
def maxPathBytes : Nat := 4095

/-- The number of links that can be on the way of a path. -/
def maxLinks : Nat := 40

namespace Entry

/-- What stands at a location below an entry; no link is followed to it. -/
def at? : Location → Entry → Except Cause Entry
  | [], e => .ok e
  | _ :: _, .file _ => .error .notAFolder
  | _ :: _, .link _ => .error .notAFolder
  | name :: rest, .folder es =>
    match es.lookup name with
    | some e => at? rest e
    | none => .error (if name.utf8ByteSize ≤ maxNameBytes then .missing else .nameTooLong)

/-- The entry with something at a location; folders on the way that are not there are made. -/
def put : Entry → Location → Entry → Entry
  | _, [], new => new
  | .folder es, name :: rest, new =>
    .folder (Named.alter name (fun e => put (e.getD (.folder [])) rest new) es)
  | .file _, name :: rest, new => .folder [(name, put (.folder []) rest new)]
  | .link _, name :: rest, new => .folder [(name, put (.folder []) rest new)]

@[simp] theorem at?_put (e : Entry) (place : Location) (new : Entry) :
    at? place (put e place new) = .ok new := by
  induction place generalizing e with
  | nil => simp [put, at?]
  | cons name rest ih =>
    cases e with
    | file content => simp [put, at?, ih]
    | link target => simp [put, at?, ih]
    | folder es => simp [put, at?, Named.lookup_alter_self, ih]

/-- The entry without what stands at a location. -/
def erase : Location → Entry → Entry
  | [], e => e
  | _ :: _, .file content => .file content
  | _ :: _, .link target => .link target
  | [name], .folder es => .folder (es.filter (·.1 ≠ name))
  | name :: next :: rest, .folder es =>
    .folder (es.map fun e => if e.1 = name then (e.1, erase (next :: rest) e.2) else e)

/-- Whether the entry is a folder. -/
def isFolder : Entry → Bool
  | .folder _ => true
  | _ => false

/-- Whether the entry is a file. -/
def isFile : Entry → Bool
  | .file _ => true
  | _ => false

mutual

/-- The files below an entry, each by its location and its bytes. -/
def files (place : Location) : Entry → List (Location × List UInt8)
  | .file content => [(place, content)]
  | .folder es => filesIn place es
  | .link _ => []

/-- The files below some entries of a folder. -/
def filesIn (place : Location) : List (String × Entry) → List (Location × List UInt8)
  | [] => []
  | (name, e) :: rest => files (place ++ [name]) e ++ filesIn place rest

end

end Entry

/-- What one can want to do at a location. -/
inductive Access where
  /-- To look for a name in the folder there. -/
  | search
  /-- To read the file there. -/
  | read
  /-- To list the folder there. -/
  | list
  /-- To write a file there. -/
  | write
  /-- To remove the file or the link there. -/
  | remove
deriving DecidableEq, Repr

/-- A disk. -/
structure Disk where
  /-- What stands at the root. -/
  top : Entry
  /-- Where the working folder is. -/
  working : Location := []
  /-- What the system denies, where the tree alone would allow it. -/
  denies : Access → Location → Option Denial := fun _ _ => none
  /-- Where a write of some bytes breaks off: behind how many of them, and why. -/
  breaksOff : Location → List UInt8 → Option (Nat × Cause) := fun _ _ => none

/-- What becomes of a write. -/
inductive Write where
  /-- Nothing is written. -/
  | refused (cause : Cause)
  /-- A part of the bytes is in the file. -/
  | brokenOff (disk : Disk) (cause : Cause)
  /-- The bytes are in the file. -/
  | done (disk : Disk)

namespace Disk

/-- What the system denies at a location, as a failure. -/
def permit (d : Disk) (access : Access) (place : Location) : Except Cause Unit :=
  match d.denies access place with
  | some r => .error r.cause
  | none => .ok ()

/-! ## Where paths lead -/

/-- Whether names can be looked for at a location: there must be a folder that can be searched. -/
def enter (d : Disk) (place : Location) : Except Cause Unit := do
  match ← d.top.at? place with
  | .folder _ => d.permit .search place
  | _ => throw .notAFolder

/--
The location that names lead to from a folder. From a link the way goes on as `jump` says, which
is told the folder of the link, its target, and the names behind it; but a link at the end is only
followed on the `whole` way.
-/
def walk (d : Disk) (whole : Bool) (jump : Location → Path → List String → Except Cause Location) :
    Location → List String → Except Cause Location
  | place, [] => .ok place
  | place, name :: rest => do
    d.enter place
    if name = ".." then walk d whole jump place.dropLast rest
    else
      match d.top.at? (place ++ [name]) with
      | .ok (.link target) =>
        if rest = [] ∧ whole = false then return place ++ [name] else jump place target rest
      | _ => walk d whole jump (place ++ [name]) rest

/-- Where a path starts that is met in a folder. -/
def startOf (place : Location) : Anchor → Location
  | .relative => place
  | .root | .doubleRoot => []

/-- The location that names lead to from a folder by way of no more than so many links. -/
def follow (d : Disk) (whole : Bool) : Nat → Location → List String → Except Cause Location
  | 0 => d.walk whole fun _ _ _ => .error .tooManyLinks
  | links + 1 => d.walk whole fun place target rest =>
    follow d whole links (startOf place target.anchor) (target.parts ++ rest)

/-- The location that a path leads to, with or without a link at its end. -/
def lead (d : Disk) (whole : Bool) (p : Path) : Except Cause Location :=
  if maxPathBytes < p.text.utf8ByteSize then .error .nameTooLong
  else d.follow whole maxLinks (startOf d.working p.anchor) p.parts

/-- The location that a path leads to in the end. -/
def locate (d : Disk) (p : Path) : Except Cause Location := d.lead true p

/-- What stands where a path leads to. -/
def find (d : Disk) (p : Path) : Except Cause Entry := do d.top.at? (← d.locate p)

/-- Whether something of a kind stands where a path leads to. If it leads nowhere nothing does; if
the way is refused for another reason that cannot be told. -/
def holds (d : Disk) (kind : Entry → Bool) (p : Path) : Except Cause Bool :=
  match d.find p with
  | .ok e => .ok (kind e)
  | .error c => if c.isAbsence then .ok false else .error c

/-- Whether something stands where a path leads to. -/
def occupied (d : Disk) (p : Path) : Except Cause Bool := d.holds (fun _ => true) p

/-! ## Reading, listing, writing and removing -/

/-- The bytes of the file at a path. -/
def read (d : Disk) (p : Path) : Except Cause (List UInt8) := do
  let place ← d.locate p
  match ← d.top.at? place with
  | .folder _ => throw .isAFolder
  | .link _ => throw .tooManyLinks
  | .file content =>
    d.permit .read place
    return content

/-- The names in the folder at a path. -/
def list (d : Disk) (p : Path) : Except Cause (List String) := do
  let place ← d.locate p
  match ← d.top.at? place with
  | .folder es =>
    d.permit .list place
    return es.map (·.1)
  | _ => throw .notAFolder

/-- The location of a path where a file can be written; its folder must be there. -/
def writable (d : Disk) (p : Path) : Except Cause Location := do
  let place ← d.locate p
  match d.top.at? place with
  | .ok (.folder _) => throw .isAFolder
  | .ok (.link _) => throw .tooManyLinks
  | .ok (.file _) => d.permit .write place
  | .error .missing =>
    if (← d.top.at? place.dropLast).isFolder then d.permit .write place else throw .notAFolder
  | .error c => throw c
  return place

/-- The disk with a file of these bytes at a location. -/
def holding (d : Disk) (place : Location) (content : List UInt8) : Disk :=
  { d with top := d.top.put place (.file content) }

/-- Writes a file of these bytes at a path. -/
def write (d : Disk) (p : Path) (content : List UInt8) : Write :=
  match d.writable p with
  | .error cause => .refused cause
  | .ok place =>
    match d.breaksOff place content with
    | none => .done (d.holding place content)
    | some (count, cause) => .brokenOff (d.holding place (content.take count)) cause

/-- The disk without what stands at a location. -/
def lacking (d : Disk) (place : Location) : Disk := { d with top := d.top.erase place }

/-- The disk without the file at a path, or without the link to it if there is one. -/
def remove (d : Disk) (p : Path) : Except Cause Disk := do
  let place ← d.lead false p
  match ← d.top.at? place with
  | .folder _ => throw .isAFolder
  | _ =>
    d.permit .remove place
    return d.lacking place

/-- All files, each by its location and its bytes. -/
def files (d : Disk) : List (Location × List UInt8) := d.top.files []

end Disk

end ScriptTypes.Files
