import ScriptTypes.Shape.Interface

/-!
# Reading an interface back

What an interface says can be read back from its text. A line of it says one of four things: a
member has a type, an object begins, the object that began last ends, or the interface ends. So
the text is cut into lines, each line is understood alone, and the members are put together
with a stack of the objects that have not ended.

The main statement is that whatever members an interface was written with are read back from
its text, the type `any` where none was told. It asks of the names of the members that they
have no space, no line feed and no colon, since the line feeds tell where lines end, the spaces
in front of a name are left out and the first colon tells where the name ends. The name of the
interface itself may be any text: who reads an interface knows which one it is.
-/

namespace ScriptTypes

/-! ## Types -/

namespace InferredType

/-- The types other than arrays. -/
def simple : List InferredType := [any, number, string, boolean, regExp, bigInt, function]

/-- The type whose text, from its end to its start, is given. -/
def ofReversed? : List Char → Option InferredType
  | ']' :: '[' :: cs => (ofReversed? cs).map arrayOf
  | cs => simple.find? fun t => t.text.toList.reverse = cs

/-- The type with a text. -/
def ofText? (cs : List Char) : Option InferredType := ofReversed? cs.reverse

/-- A type is read back from its text. -/
theorem ofText?_text (t : InferredType) : ofText? t.text.toList = some t := by
  unfold ofText?
  induction t with
  | arrayOf t ih =>
      have hends : (arrayOf t).text.toList.reverse = ']' :: '[' :: t.text.toList.reverse := by
        rw [text, String.toList_append, List.reverse_append]
        rfl
      rw [hends, ofReversed?, ih]
      rfl
  | _ => decide

theorem newline_not_mem_text (t : InferredType) : '\n' ∉ t.text.toList := by
  induction t with
  | arrayOf t ih =>
      rw [text, String.toList_append, List.mem_append, not_or]
      exact ⟨ih, by decide⟩
  | _ => decide

end InferredType

namespace Shape

variable {α : Type} {fs : List (String × Shape InferredType)} {name : String}

/-! ## Names -/

/-- All names of fields in a shape have a property. -/
inductive Names (P : String → Prop) : Shape α → Prop where
  | leaf {e : Option α} : Names P (.leaf e)
  | branch {fs : List (String × Shape α)} : (∀ f ∈ fs, P f.1) → (∀ f ∈ fs, Names P f.2) →
      Names P (.branch fs)

/-- A name that can be told from what stands around it on a line of an interface. -/
def Legible (name : String) : Prop := ' ' ∉ name.toList ∧ '\n' ∉ name.toList ∧ ':' ∉ name.toList

instance : Decidable (Legible name) := inferInstanceAs (Decidable (_ ∧ _))

/-! ## Lines -/

/-- What a line of an interface says. -/
inductive Line where
  /-- A member has a type. -/
  | member (name : String) (type : InferredType)
  /-- A member is an object, and its members follow. -/
  | opening (name : String)
  /-- The object that began last has no more members. -/
  | closing
  /-- The interface has no more members. -/
  | ending
  /-- Nothing that a line of an interface says. -/
  | other
deriving DecidableEq

/-- What is said of a name by what stands behind the colon and the space. -/
def Line.ofValue (name : String) (value : List Char) : Line :=
  if value = ['\x7b'] then .opening name
  else match InferredType.ofText? value.dropLast with
    | some t => .member name t
    | none => .other

/-- What a line says. -/
def Line.ofChars (cs : List Char) : Line :=
  let said := cs.dropWhile (· == ' ')
  if said = ['\x7d', ','] then .closing
  else if said = ['\x7d'] then .ending
  else .ofValue (String.ofList (said.takeWhile (· != ':'))) ((said.dropWhile (· != ':')).drop 2)

/-- What the lines of a text say. -/
def linesOf (cs : List Char) : List Line := (cs.splitOn '\n').map .ofChars

theorem linesOf_cons {line rest : List Char} (h : '\n' ∉ line) :
    linesOf (line ++ '\n' :: rest) = .ofChars line :: linesOf rest := by
  unfold linesOf
  rw [List.splitOn_append_cons_self_of_not_mem h, List.map_cons]

theorem ofValue_text (t : InferredType) :
    Line.ofValue name (t.text.toList ++ [',']) = .member name t := by
  have hne : t.text.toList ++ [','] ≠ ['\x7b'] := by
    intro h
    have hlast := congrArg List.getLast? h
    rw [List.getLast?_concat] at hlast
    exact absurd hlast (by decide)
  rw [Line.ofValue, if_neg hne, List.dropLast_concat, InferredType.ofText?_text]

/-- Behind its indentation a line is taken as it stands. -/
theorem dropWhile_space {n : Nat} {cs : List Char} (h : cs.head? ≠ some ' ') :
    (List.replicate n ' ' ++ cs).dropWhile (· == ' ') = cs := by
  rw [List.dropWhile_append_of_pos (by simp)]
  cases cs with
  | nil => rfl
  | cons c cs =>
      have hne : c ≠ ' ' := fun hc => h (congrArg some hc)
      exact List.dropWhile_cons_of_neg (by simpa using hne)

/-- The name on a line ends at the first colon. -/
theorem ofChars_named {n : Nat} {value : List Char} (h : Legible name) :
    Line.ofChars (List.replicate n ' ' ++ (name.toList ++ ':' :: ' ' :: value)) =
      .ofValue name value := by
  obtain ⟨hspace, -, hcolon⟩ := h
  have hhead : (name.toList ++ ':' :: ' ' :: value).head? ≠ some ' ' := by
    intro hhead
    cases hcs : name.toList with
    | nil => rw [hcs] at hhead; exact absurd hhead (by simp)
    | cons c cs =>
        rw [hcs] at hhead hspace
        exact hspace (List.mem_cons.mpr (.inl (Option.some.inj hhead).symm))
  -- a line with a colon is none of those that only end something
  have hmem : ':' ∈ name.toList ++ ':' :: ' ' :: value :=
    List.mem_append_right _ List.mem_cons_self
  have hends : ∀ c ∈ name.toList, (c != ':') = true := by
    intro c hc
    refine bne_iff_ne.mpr ?_
    rintro rfl
    exact hcolon hc
  unfold Line.ofChars
  dsimp only
  rw [dropWhile_space hhead, if_neg, if_neg, List.takeWhile_append_of_pos hends,
    List.dropWhile_append_of_pos hends]
  · simp
  · intro h
    rw [h] at hmem
    exact absurd hmem (by decide)
  · intro h
    rw [h] at hmem
    exact absurd hmem (by decide)

theorem ofChars_closing (n : Nat) :
    Line.ofChars (List.replicate n ' ' ++ ['\x7d', ',']) = .closing := by
  unfold Line.ofChars
  dsimp only
  rw [dropWhile_space (by decide), if_pos rfl]

/-! ## Members -/

mutual

/-- The shape with the types that are written: `any` at the leaves that tell none. -/
def settled : Shape InferredType → Shape InferredType
  | .leaf t => .leaf (some (t.getD .any))
  | .branch fs => .branch (settledFields fs)

/-- The fields with the types that are written. -/
def settledFields : List (String × Shape InferredType) → List (String × Shape InferredType)
  | [] => []
  | (name, s) :: rest => (name, settled s) :: settledFields rest

end

mutual

/-- What the lines of a member say. -/
def memberLines (name : String) : Shape InferredType → List Line
  | .leaf t => [.member name (t.getD .any)]
  | .branch fs => .opening name :: (membersLines fs ++ [.closing])

/-- What the lines of the members say. -/
def membersLines : List (String × Shape InferredType) → List Line
  | [] => []
  | (name, s) :: rest => memberLines name s ++ membersLines rest

end

/--
Puts the members together that lines tell of. The objects that have not ended are on the stack,
the innermost first, each with its name and with the members in front of it; `now` are the
members so far of the innermost object.
-/
def assemble (outer : List (String × List (String × Shape InferredType)))
    (now : List (String × Shape InferredType)) :
    List Line → Option (List (String × Shape InferredType))
  | .member name t :: rest => assemble outer (now ++ [(name, .leaf (some t))]) rest
  | .opening name :: rest => assemble ((name, now) :: outer) [] rest
  | .closing :: rest =>
    match outer with
    | (name, front) :: outer => assemble outer (front ++ [(name, .branch now)]) rest
    | [] => none
  | .ending :: _ => if outer.isEmpty then some now else none
  | .other :: _ => none
  | [] => none

mutual

theorem assemble_memberLines {outer : List (String × List (String × Shape InferredType))}
    {now : List (String × Shape InferredType)} {rest : List Line} (name : String)
    (s : Shape InferredType) :
    assemble outer now (memberLines name s ++ rest) =
      assemble outer (now ++ [(name, s.settled)]) rest := by
  match s with
  | .leaf t => rfl
  | .branch fs =>
    rw [memberLines, List.cons_append, assemble, List.append_assoc, assemble_membersLines fs,
      List.nil_append, List.singleton_append, assemble, settled]

/-- The lines of members are put together to those members, whatever came before. -/
theorem assemble_membersLines {outer : List (String × List (String × Shape InferredType))}
    {now : List (String × Shape InferredType)} {rest : List Line}
    (fs : List (String × Shape InferredType)) :
    assemble outer now (membersLines fs ++ rest) =
      assemble outer (now ++ settledFields fs) rest := by
  match fs with
  | [] => rw [membersLines, settledFields, List.nil_append, List.append_nil]
  | (name, s) :: fs =>
    rw [membersLines, settledFields, List.append_assoc, assemble_memberLines name s,
      assemble_membersLines fs, List.append_assoc, List.singleton_append]

end

/-! ## Texts -/

theorem newline_not_mem_replicate (n : Nat) : '\n' ∉ List.replicate n ' ' := by
  intro h
  exact absurd (List.eq_of_mem_replicate h) (by decide)

/-- A line that tells of a name is understood alone. -/
theorem linesOf_named (n : Nat) {value : List Char} (rest : List Char) (h : Legible name)
    (hvalue : '\n' ∉ value) :
    linesOf (List.replicate n ' ' ++ (name.toList ++ ':' :: ' ' :: (value ++ '\n' :: rest))) =
      .ofValue name value :: linesOf rest := by
  have hline : '\n' ∉ List.replicate n ' ' ++ (name.toList ++ ':' :: ' ' :: value) := by
    simp only [List.mem_append, List.mem_cons, not_or]
    exact ⟨newline_not_mem_replicate n, h.2.1, by decide, by decide, hvalue⟩
  have hcut : linesOf (_ ++ '\n' :: rest) = _ := linesOf_cons hline
  rw [ofChars_named h] at hcut
  simpa only [List.append_assoc, List.cons_append] using hcut

mutual

/-- The lines of a member's text say what the member is. -/
theorem linesOf_memberText {depth : Int} (hdepth : 0 < depth) {name : String}
    (hname : Legible name) (s : Shape InferredType) (hs : s.Names Legible) (rest : List Char) :
    linesOf ((memberText depth name s).toList ++ rest) = memberLines name s ++ linesOf rest := by
  match s with
  | .leaf t =>
    have hvalue : '\n' ∉ (t.getD .any).text.toList ++ [','] := by
      rw [List.mem_append, not_or]
      exact ⟨(t.getD .any).newline_not_mem_text, by decide⟩
    have hline := linesOf_named (4 * depth).toNat rest hname hvalue
    rw [ofValue_text] at hline
    rw [memberText, memberLines, List.singleton_append, ← hline]
    simp [indentation]
  | .branch fs =>
    cases hs with
    | branch hnames hchildren =>
        have hclose : '\n' ∉ List.replicate (4 * depth).toNat ' ' ++ ['\x7d', ','] := by
          rw [List.mem_append, not_or]
          exact ⟨newline_not_mem_replicate _, by decide⟩
        have hbelow : 0 < depth + 1 := by omega
        have hinner := linesOf_membersText hbelow fs hnames hchildren
          ((List.replicate (4 * depth).toNat ' ' ++ ['\x7d', ',']) ++ '\n' :: rest)
        rw [linesOf_cons hclose, ofChars_closing] at hinner
        have hbrace : '\n' ∉ ['\x7b'] := by decide
        have hopen := linesOf_named (4 * depth).toNat ((membersText (depth + 1) fs).toList ++
          ((List.replicate (4 * depth).toNat ' ' ++ ['\x7d', ',']) ++ '\n' :: rest)) hname hbrace
        rw [hinner, Line.ofValue, if_pos rfl] at hopen
        rw [memberText, if_neg (by omega), memberLines, List.cons_append, List.append_assoc,
          List.singleton_append, ← hopen]
        simp [indentation]

theorem linesOf_membersText {depth : Int} (hdepth : 0 < depth)
    (fs : List (String × Shape InferredType)) (hnames : ∀ f ∈ fs, Legible f.1)
    (hchildren : ∀ f ∈ fs, f.2.Names Legible) (rest : List Char) :
    linesOf ((membersText depth fs).toList ++ rest) = membersLines fs ++ linesOf rest := by
  match fs with
  | [] => rfl
  | (name, s) :: fs =>
    rw [List.forall_mem_cons] at hnames hchildren
    rw [membersText, String.toList_append, List.append_assoc, membersLines, List.append_assoc,
      linesOf_memberText hdepth hnames.1 s hchildren.1,
      linesOf_membersText hdepth fs hnames.2 hchildren.2]

end

/-- What stands in front of the members of an interface. -/
def heading (name : String) : String := "interface " ++ name ++ " \x7b\n"

/-- The members that the text of an interface tells of. -/
def readInterface (name text : String) : Option (List (String × Shape InferredType)) :=
  assemble [] [] (linesOf (text.toList.drop (heading name).toList.length))

/-- **An interface is read back from its text**, with `any` for the types that are not told. -/
theorem readInterface_interfaceWith (h : (Shape.branch fs).Names Legible) :
    readInterface name (interfaceWith name fs) = some (settledFields fs) := by
  cases h with
  | branch hnames hchildren =>
      have htext : (interfaceWith name fs).toList = (heading name).toList ++
          ((membersText 1 fs).toList ++ (['\x7d'] ++ '\n' :: ['\n'])) := by
        simp [interfaceWith, heading]
      have hend : Line.ofChars ['\x7d'] = .ending := by decide
      unfold readInterface
      rw [htext, List.drop_left, linesOf_membersText (by decide) fs hnames hchildren,
        assemble_membersLines, linesOf_cons (by decide), hend, assemble]
      rfl

example :
    readInterface "P" "interface P \x7b\n    a: \x7b\n    \x7d,\n    b: string[],\n\x7d\n\n" =
      some [("a", .branch []), ("b", .leaf (some (.arrayOf .string)))] := by
  rfl

mutual

/-- The text of a member shows no more than the types that are written. -/
theorem memberText_settled (depth : Int) (name : String) (s : Shape InferredType) :
    memberText depth name s.settled = memberText depth name s := by
  match s with
  | .leaf t => rfl
  | .branch fs =>
    rw [settled, memberText, memberText, membersText_settled 1 fs, membersText_settled _ fs]

theorem membersText_settled (depth : Int) (fs : List (String × Shape InferredType)) :
    membersText depth (settledFields fs) = membersText depth fs := by
  match fs with
  | [] => rfl
  | (name, s) :: fs =>
    rw [settledFields, membersText, membersText, memberText_settled depth name s,
      membersText_settled depth fs]

end

theorem interfaceWith_settled (fs : List (String × Shape InferredType)) :
    interfaceWith name (settledFields fs) = interfaceWith name fs := by
  rw [interfaceWith, interfaceWith, membersText_settled]

end Shape

end ScriptTypes
