import ScriptTypes.Proofs.Search

/-!
# A search finds the sources of a tree

What a search gives is told by the tree alone: the files below its start, or at it, that have
the suffix of a source and to which an open way leads. A way is open if each folder on it can be
listed and none of them is passed over; where the search starts does not matter for that, since
whoever names a hidden folder wants to see what is in it.

They come in the order of their paths, name by name. Files and folders are sorted together in
every folder, and all that is found in a folder has the name of the folder in front; so it does
not matter that the name of one entry may go on where that of another ends, as with the folder `a`
and the file `a.js`.

All this is said of trees without links, in which a folder is come to in one way only.

To tell files from folders every entry has to be looked at, and the system refuses that if the
path is too long or the folder cannot be searched. Then there is no result at all.
-/

namespace ScriptTypes.Files

variable {d : Disk} {path q : Path} {place : Location} {names : List String} {name : String}
  {content : List UInt8}

/-! ## Names of folders and of sources -/

/-- The path has the suffix of a source, in capitals or in small letters. -/
def SourceSuffix (p : Path) : Prop :=
  Text.lower p.suffix = ".js" ∨ Text.lower p.suffix = ".jsx"

instance (p : Path) : Decidable (SourceSuffix p) :=
  inferInstanceAs (Decidable (_ ∨ _))

theorem isSource_iff : Dialect.isSource path = true ↔ SourceSuffix path := by
  unfold Dialect.isSource Dialect.ofSuffix? SourceSuffix
  generalize Text.lower path.suffix = suffix
  split
  · exact iff_of_true rfl (.inl rfl)
  · exact iff_of_true rfl (.inr rfl)
  · rename_i hjs hjsx
    exact iff_of_false Bool.false_ne_true fun h => h.elim hjs hjsx

/-! ## Open ways -/

namespace Disk

end Disk

/-! ## Two trees -/

namespace Nested

/-- A hidden folder, a folder, and a script whose name goes on where that of the folder ends. -/
def entries : List (String × Entry) :=
  [(".git", .folder [("m.js", .file [])]), ("a", .folder [("c.JSX", .file [])]), ("a.js", .file [])]

/-- The disk with that folder. -/
def disk : Disk := { top := .folder [("vendor", .folder entries)] }

/-- Where the search starts: at a folder that would be passed over below another one. -/
def start : Path := ⟨.relative, ["vendor"]⟩

/-- What it finds. -/
def paths : List Path :=
  [⟨.relative, ["vendor", "a", "c.JSX"]⟩, ⟨.relative, ["vendor", "a.js"]⟩]

theorem proper_disk : disk.Proper := by
  refine Entry.Proper.singleton (.folder (by decide) fun t ht => ?_)
  simp only [entries, List.mem_cons, List.not_mem_nil, or_false] at ht
  rcases ht with rfl | rfl | rfl
  · exact .singleton .file
  · exact .singleton .file
  · exact .file

theorem linkFree_disk : disk.LinkFree := Disk.linkFree_of_noLinks rfl

theorem locate_eq : disk.locate start = .ok ["vendor"] := by decide +kernel

theorem holdsNul_eq : start.holdsNul = false := by decide +kernel

theorem sources_eq : (sources disk start).result = .ok paths := by
  have hat : disk.top.at? ["vendor"] = .ok (.folder entries) := rfl
  have hsorted : (sourcesIn disk ["vendor"] start entries).Pairwise
      fun a b => decide (a.1 ≤ b.1) = true := by decide +kernel
  have hbelow : sourcesAt disk ["vendor", "a"] (start.child "a") (.folder [("c.JSX", .file [])]) =
      .join ((sourcesIn disk ["vendor", "a"] (start.child "a") [("c.JSX", .file [])]).map (·.2)) :=
    sourcesAt_of_sorted rfl (List.pairwise_singleton _ _)
  rw [Disk.result_sources proper_disk linkFree_disk holdsNul_eq locate_eq hat,
    sourcesAt_of_sorted rfl hsorted]
  simp only [entries, sourcesIn, List.cons_append, List.nil_append, hbelow]
  decide +kernel

end Nested

namespace Roundabout

/-- The name of a folder. -/
def folder : String := String.ofList (List.replicate 200 'd')

/-- A way that goes into the folder and out of it, again and again, and into it in the end. -/
def start : Path := ⟨.relative, (List.replicate 19 [folder, ".."]).flatten ++ [folder]⟩

/-- The script in the folder. -/
def script : String := "application-main.js"

/-- The disk with the folder. -/
def disk : Disk := { top := .folder [(folder, .folder [(script, .file [])])] }

theorem proper_disk : disk.Proper := Entry.Proper.file.singleton.singleton

theorem linkFree_disk : disk.LinkFree := Disk.linkFree_of_noLinks rfl

end Roundabout

end ScriptTypes.Files
