import ScriptTypes.Text.Quoted

/-!
# Refusals of the file system

Reading, listing, writing and removing can be refused. A refusal names the path it
is about; its number and wording are those that POSIX systems give.
-/

namespace ScriptTypes.Files

/-- Why the file system refuses. -/
inductive Cause where
  /-- Nothing stands at the path. -/
  | missing
  /-- The path goes through something that is no folder, or a folder is needed at its end. -/
  | notAFolder
  /-- A file is needed and a folder stands at the path. -/
  | isAFolder
  /-- A name on the way, or the path as a whole, is longer than the system allows. -/
  | nameTooLong
  /-- Any other reason, by its number and wording. -/
  | other (number : Nat) (wording : String)
deriving DecidableEq, Repr

/-- The number of a cause. -/
def Cause.number : Cause → Nat
  | .missing => 2
  | .notAFolder => 20
  | .isAFolder => 21
  | .nameTooLong => 36
  | .other n _ => n

/-- The wording of a cause. -/
def Cause.wording : Cause → String
  | .missing => "No such file or directory"
  | .notAFolder => "Not a directory"
  | .isAFolder => "Is a directory"
  | .nameTooLong => "File name too long"
  | .other _ w => w

/-- There are too many links on the way. -/
def Cause.tooManyLinks : Cause := .other 40 "Too many levels of symbolic links"

/-- Whether the cause answers the question whether something stands at a path: nothing does. -/
def Cause.isAbsence (c : Cause) : Bool := [2, 9, 20, 40].contains c.number

/-- Why the system denies what the tree alone would allow. It answers no question about what stands
where. -/
structure Denial where
  /-- The number of the cause. -/
  number : Nat
  /-- Its wording. -/
  wording : String
  /-- It does not say that nothing is there. -/
  isAbsence_eq : Cause.isAbsence (.other number wording) = false
deriving DecidableEq, Repr

/-- The denial as a cause. -/
def Denial.cause (r : Denial) : Cause := .other r.number r.wording

@[simp] theorem Denial.isAbsence_cause (r : Denial) : r.cause.isAbsence = false := r.isAbsence_eq

/-- The wording of a cause where no path is told. -/
def Cause.message (c : Cause) : String := s!"[Errno {c.number}] {c.wording}"

/-- A refusal: the cause and the path, as text. -/
structure Refusal where
  /-- Why the file system refuses. -/
  cause : Cause
  /-- The path that was asked for. -/
  path : String
deriving DecidableEq, Repr

/-- The wording of a refusal. -/
def Refusal.message (r : Refusal) : String :=
  s!"{r.cause.message}: {Text.quoted r.path}"

end ScriptTypes.Files
