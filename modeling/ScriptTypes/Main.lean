import ScriptTypes.CommandLine.Run
import ScriptTypes.KnownTrees

/-!
# The program

The working folder is read, the command line is run on what was read, and what the
run changed is written back. Syntax trees come from the folder that the variable
`TSMIGRATE_TREES` names: `NAME.source` holds a text and `NAME.tree` its tree.
-/

namespace ScriptTypes.Program

open Files

/-- The path of a place. -/
def placeText (place : Location) : String := "/" ++ "/".intercalate place

/-- What a name in a folder stands for. -/
inductive Kind where
  | file
  | folder
  | link

/-- The names in a folder, each with what it stands for. -/
def listFolder (path : String) : IO (List (String × Kind)) := do
  let entries ← ((← IO.currentDir) / path).readDir
  entries.toList.mapM fun e => do
    match (← e.path.symlinkMetadata).type with
    | .dir => return (e.fileName, .folder)
    | .symlink => return (e.fileName, .link)
    | _ => return (e.fileName, .file)

/-- Where a link leads in the end; one that leads nowhere is kept as a link to itself. -/
def readLink (place : Location) : IO Path := do
  try return .ofText (← IO.FS.realPath (placeText place)).toString
  catch _ => return ⟨.root, place⟩

/-- Reads what stands at a place; folders that are passed over are not looked into. -/
partial def readEntry (place : Location) : Kind → IO Entry
  | .file => return .file (← IO.FS.readBinFile (placeText place)).toList
  | .link => return .link (← readLink place)
  | .folder => do
    let names ← listFolder (placeText place)
    return .folder (← names.mapM fun (name, kind) => do
      if kind matches .folder && isIgnored name then return (name, .folder [])
      else return (name, ← readEntry (place ++ [name]) kind))

/-- Reads the working folder; of the folders above it only the way to it is known. -/
def readDisk : IO Disk := do
  let working := (Path.ofText (← IO.currentDir).toString).parts
  let folder ← readEntry working .folder
  return { top := Entry.put (.folder []) working folder, working }

mutual

/-- The links below an entry, each by its location. -/
def linksBelow (place : Location) : Entry → List Location
  | .file _ => []
  | .folder es => linksIn place es
  | .link _ => [place]

/-- The links below some entries of a folder. -/
def linksIn (place : Location) : List (String × Entry) → List Location
  | [] => []
  | (name, e) :: rest => linksBelow (place ++ [name]) e ++ linksIn place rest

end

/-- Writes the files that a run changed, and removes the files and links that it removed. -/
def writeBack (before after : Disk) : IO Unit := do
  let old := before.files
  let new := after.files
  for (place, content) in new do
    if old.lookup place ≠ some content then
      IO.FS.writeBinFile (placeText place) ⟨content.toArray⟩
  for (place, _) in old do
    if (new.lookup place).isNone then IO.FS.removeFile (placeText place)
  let kept := linksBelow [] after.top
  for place in linksBelow [] before.top do
    if !kept.contains place then IO.FS.removeFile (placeText place)

/-- The trees in a folder; files that cannot be read hold none. -/
def readTrees (folder : String) : IO (List KnownTree) := do
  let names := (← listFolder folder).map (·.1)
  let read (name : String) : IO (Option String) := do
    return (Utf8.decode (← IO.FS.readBinFile s!"{folder}/{name}").toList).toOption
  let trees ← (names.filter (·.endsWith ".tree")).mapM fun name => do
    let stem := (name.dropEnd 5).toString
    if names.contains (stem ++ ".source") then
      match ← read (stem ++ ".source"), ← read name with
      | some source, some description => return KnownTree.ofFile? source description
      | _, _ => return none
    else return none
  return trees.filterMap id

/-- The variables that the settings ask for. -/
def readEnvironment : IO Environment := do
  let names :=
    ["TSMIGRATE_LOG_LEVEL", "TSMIGRATE_JOBS", "TSMIGRATE_REMOVE_ORIGINAL", "TSMIGRATE_SKIP_INVALID"]
  let values ← names.mapM fun name => return (name, ← IO.getEnv name)
  return fun name => (values.lookup name).join

end ScriptTypes.Program

open ScriptTypes Program in
/-- Runs the command line on the working folder. -/
def main (words : List String) : IO UInt32 := do
  let trees ← match ← IO.getEnv "TSMIGRATE_TREES" with
    | some folder => readTrees folder
    | none => pure []
  let disk ← readDisk
  let o := CommandLine.run (Parser.ofKnown trees) (← readEnvironment) disk words
  writeBack disk o.disk
  for e in o.log do
    IO.eprintln s!"{e.level.name} {e.message}"
  IO.print o.stdout
  IO.eprint o.stderr
  if let some u := o.usage then IO.eprintln u.message
  if let some f := o.failure then IO.eprintln f.message
  return o.exitCode.toUInt32
