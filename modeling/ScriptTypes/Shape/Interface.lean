import ScriptTypes.InferredType
import ScriptTypes.Shape

/-!
# Interfaces

A shape is written as the body of an interface: one member a line, four spaces for
each level, the members of every level in the order of their names. So the text does
not depend on the order in which the fields were discovered, but only on what was.

Writing has three steps: the fields are put in order, then the expression at each
leaf is asked for its type, then the members are laid out.
-/

namespace ScriptTypes.Shape

open Syntax (Node)

variable {α : Type}

/-- Fields in the order of their names. -/
def inNameOrder (fields : List (String × Shape α)) : List (String × Shape α) :=
  fields.mergeSort fun a b => decide (a.1 ≤ b.1)

mutual

/-- The shape with the fields of every level in the order of their names. -/
def sorted : Shape α → Shape α
  | .leaf e => .leaf e
  | .branch fs => .branch (inNameOrder (sortedBelow fs))

/-- The fields in the order given, each with its own fields sorted. -/
def sortedBelow : List (String × Shape α) → List (String × Shape α)
  | [] => []
  | (name, s) :: rest => (name, sorted s) :: sortedBelow rest

end

mutual

/-- The shape with the types of its leaves in place of the expressions. -/
def typed : Shape Node → Except Fault (Shape InferredType)
  | .leaf e => return .leaf (← inferTypeOf? e)
  | .branch fs => return .branch (← typedFields fs)

/-- The fields with the types of their leaves in place of the expressions. -/
def typedFields : List (String × Shape Node) → Except Fault (List (String × Shape InferredType))
  | [] => return []
  | (name, s) :: rest => return (name, ← typed s) :: (← typedFields rest)

end

/-- The space in front of a member at a depth; below depth 1 there is none. -/
def indentation (depth : Int) : String := String.ofList (List.replicate (4 * depth).toNat ' ')

/-- The number that no position in a text reaches. -/
def positionLimit : Int := 0x8000000000000000

/--
Refuses a depth whose space is no text. The depth that was asked for decides, since each level
below it adds four spaces only.
-/
def checkDepth (depth : Int) : Except Fault Unit :=
  if depth < -positionLimit ∨ positionLimit ≤ depth then .error .depthOutside
  else if positionLimit ≤ 4 * depth then .error .indentationTooLong
  else if 0x10000000000 ≤ 4 * depth then .error .noRoom
  else .ok ()

mutual

/--
The member of a name at a depth; a leaf that tells no type may be of any type. Depth 0 is
that of the interface itself, so a branch there has neither name nor braces.
-/
def memberText (depth : Int) (name : String) : Shape InferredType → String
  | .leaf t => indentation depth ++ name ++ ": " ++ (t.getD .any).text ++ ",\n"
  | .branch fs =>
    if depth = 0 then membersText 1 fs
    else
      indentation depth ++ name ++ ": \x7b\n" ++ membersText (depth + 1) fs ++
        indentation depth ++ "\x7d,\n"

/-- The members at a depth, one after the other. -/
def membersText (depth : Int) : List (String × Shape InferredType) → String
  | [] => ""
  | (name, s) :: rest => memberText depth name s ++ membersText depth rest

end

/-- The members of an object with the types of their leaves, in the order of their names. -/
def members (s : Shape Node) : Except Fault (List (String × Shape InferredType)) :=
  match s with
  | .branch fs => typedFields (sorted (.branch fs)).fields
  | .leaf _ => return []

/-- The text of an interface with these members. -/
def interfaceWith (name : String) (members : List (String × Shape InferredType)) : String :=
  "interface " ++ name ++ " \x7b\n" ++ membersText 1 members ++ "\x7d\n\n"

/-- The interface of an object; one of which no field is known has no members. -/
def interfaceText (name : String) (s : Shape Node) : Except Fault String :=
  return interfaceWith name (← s.members)

/-- The text of a shape as the member of a name at a depth. -/
def render (name : String) (depth : Int) (s : Shape Node) : Except Fault String := do
  checkDepth depth
  return memberText depth name (← s.sorted.typed)

end ScriptTypes.Shape
