import ScriptTypes.Named

/-!
# Shapes of objects

What is known of an object is a shape. A leaf is a field of which nothing is known
but, at best, an expression that tells its type; a branch is an object with named
fields, in the order in which they were discovered.

Shapes grow by merging. The laws that make the order of growth irrelevant rest on two
decisions: a branch always wins over a leaf, and of two leaves the first that has an
expression wins.
-/

namespace ScriptTypes

/-- What is known of an object, with expressions of type `α` at the leaves. -/
inductive Shape (α : Type) where
  /-- A field without fields of its own, and the expression that tells its type. -/
  | leaf (expression : Option α)
  /-- An object with named fields, in the order of their discovery. -/
  | branch (fields : List (String × Shape α))
deriving Repr

namespace Shape

variable {α : Type}

/-- The shape of which nothing is known. -/
def unknown : Shape α := .leaf none

instance : Inhabited (Shape α) := ⟨unknown⟩

/-- Whether nothing is known. -/
def isUnknown : Shape α → Bool
  | .leaf none => true
  | _ => false

/-- The fields of a shape; a leaf has none. -/
def fields : Shape α → List (String × Shape α)
  | .leaf _ => []
  | .branch fs => fs

mutual

/-- What two shapes say together. -/
def merge (left : Shape α) : Shape α → Shape α
  | .leaf e =>
    match left with
    | .leaf none => .leaf e
    | s => s
  | .branch gs =>
    match left with
    | .branch fs => .branch (mergeFields fs gs)
    | .leaf _ => .branch gs

/-- The fields of a branch with the fields of another one merged in, in their order. -/
def mergeFields (fs : List (String × Shape α)) : List (String × Shape α) → List (String × Shape α)
  | [] => fs
  | (name, child) :: gs =>
    mergeFields
      (Named.alter name (fun | none => child | some known => merge known child) fs) gs

end

/-- The object with one field. -/
def single (name : String) (child : Shape α) : Shape α := .branch [(name, child)]

/--
The shape with one more field. A leaf becomes an object with that field alone; a field of the
same name is not replaced, but merged with what is added.
-/
def addField (parent : Shape α) (name : String) (child : Shape α) : Shape α :=
  match parent with
  | .leaf _ => single name child
  | .branch fs =>
    .branch (Named.alter name (fun | none => child | some known => merge known child) fs)

/-- Adding a field is merging the object with that field. -/
theorem addField_eq_merge (parent : Shape α) (name : String) (child : Shape α) :
    parent.addField name child = parent.merge (single name child) := by
  cases parent with
  | leaf e => rfl
  | branch fs => rfl

/-- The shape below a path of field names. -/
def nest (path : List String) (s : Shape α) : Shape α := path.foldr single s

end Shape

end ScriptTypes
