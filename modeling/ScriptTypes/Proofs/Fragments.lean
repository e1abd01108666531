import ScriptTypes.Proofs.ShapePaths
import ScriptTypes.Proofs.Tree
import ScriptTypes.Usage

/-!
# What a scope tells of a binding

A scope is read node by node, and each node may use the binding in one of four ways that
tell something. `Recognised` lists them, and what each of them contributes.
Everything else contributes nothing.

The contributions are merged in the order of the source. What that comes to is `Tells`:
which paths there are, that no two fields of an object share a name, and which expression
is kept where nothing goes on below.
-/

namespace ScriptTypes.Usage

open Syntax

variable {name : String} {able : Prop}

/-! ## Usages -/

/-- A member access is the first one from the binding: of its name, or of `this` and its name. -/
inductive Starts (name : String) (access : Node) : Prop where
  | name {object : Node} : access.field? "object" = some object → object.kind = "identifier" →
      object.text = .ok name → Starts name access
  | this {object this property : Node} : access.field? "object" = some object →
      object.kind = "member_expression" → object.field? "object" = some this →
      object.field? "property" = some property → this.kind = "this" →
      property.text = .ok name → Starts name access

/-- An access is the object of its parent, which is an access as well. -/
def GoesOn (access parent : Node) : Prop :=
  parent.kind = "member_expression" ∧ parent.isField "object" access = true

/--
The names on the way outwards from an access, and the last access on it: the way ends where
an access is no object of another one, or the other one has no name.
-/
inductive Chain : Node → List Node → List String → Focus → Prop where
  | last {access : Node} {above : List Node} {field : String} :
      keyName? (access.field? "property") = .ok (some field) →
      (∀ parent rest, above = parent :: rest → GoesOn access parent →
        keyName? (parent.field? "property") = .ok none) →
      Chain access above [field] ⟨access, above⟩
  | on {access parent : Node} {above : List Node} {field : String} {fields : List String}
      {last : Focus} : keyName? (access.field? "property") = .ok (some field) →
      GoesOn access parent → Chain parent above fields last →
      Chain access (parent :: above) (field :: fields) last

/-- An expression is the binding, or is accessed from it by a path of names. -/
inductive AccessPath (name : String) : Node → List String → Prop where
  | name {e : Node} : e.kind = "identifier" → e.text = .ok name → AccessPath name e []
  | this {e object : Node} : e.kind = "member_expression" → e.field? "object" = some object →
      object.kind = "this" → keyName? (e.field? "property") = .ok (some name) →
      AccessPath name e []
  | field {e object : Node} {path : List String} {field : String} :
      e.kind = "member_expression" → e.field? "object" = some object →
      keyName? (e.field? "property") = .ok (some field) → AccessPath name object path →
      AccessPath name e (path ++ [field])

/-- A node uses the binding in one of the four ways that tell something, and what it tells. -/
inductive Recognised (name : String) (f : Focus) : Fragment → Prop where
  /-- It is the first access of a chain. -/
  | accessed {fields : List String} {last : Focus} : f.node.kind = "member_expression" →
      Starts name f.node → Chain f.node f.above fields last →
      Recognised name f (.nest fields (.leaf (involvement? last)))
  /-- A pattern takes apart the binding or what is accessed from it. -/
  | destructured {pattern value : Node} {path : List String} {shape : Fragment} :
      f.node.kind = "variable_declarator" → f.node.field? "name" = some pattern →
      pattern.kind = "object_pattern" → f.node.field? "value" = some value →
      AccessPath name value path → patternShape pattern = .ok shape →
      Recognised name f (.nest path shape)
  /-- An object literal is assigned to the binding or to what is accessed from it. -/
  | assigned {target literal : Node} {path : List String} {shape : Fragment} :
      f.node.kind = "assignment_expression" → f.node.field? "left" = some target →
      f.node.field? "right" = some literal → literal.kind = "object" →
      AccessPath name target path → literalShape literal = .ok shape →
      Recognised name f (.nest path shape)
  /-- A class field of the binding's name starts as an object literal. -/
  | initialised {literal : Node} {shape : Fragment} : f.node.kind ∈ classFieldKinds →
      keyName? (f.node.field? "name" <|> f.node.field? "property") = .ok (some name) →
      f.node.field? "value" = some literal → literal.kind = "object" →
      literalShape literal = .ok shape → Recognised name f shape

/-- What a node contributes: what it tells if it uses the binding, and nothing otherwise. -/
inductive Contributes (name : String) (f : Focus) : Fragment → Prop where
  | usage {shape : Fragment} : Recognised name f shape → Contributes name f shape
  | nothing : (∀ shape, ¬ Recognised name f shape) → Contributes name f .unknown

/-! ## Shapes of patterns and literals -/

/-- A shape that an object can have. -/
structure Sound (s : Fragment) : Prop where
  /-- Fields are told apart by their names. -/
  proper : s.Proper
  /-- It is no single expression. -/
  object : s.IsObject

theorem sound_unknown : Sound .unknown := ⟨.leaf, Shape.isObject_unknown⟩

theorem Sound.addField {known s : Fragment} {field : String} (hk : Sound known) (hs : s.Proper) :
    Sound (known.addField field s) := ⟨hk.proper.addField hs, hk.object.addField⟩

theorem Sound.nest {s : Fragment} {path : List String} (h : Sound s) : Sound (.nest path s) :=
  ⟨h.proper.nest, Shape.isObject_nest fun _ => h.object⟩

/--
What a property of nodes makes of the shapes that they tell: `object` holds of the shapes of
patterns and literals, `value` of those of anything that stands in one.
-/
structure Inherited (P : Node → Prop) (object value : Fragment → Prop) : Prop where
  /-- The property is passed on to children. -/
  child : ∀ {n c : Node}, P n → c ∈ n.children → P c
  /-- A pattern or literal starts with nothing known. -/
  unknown : object .unknown
  /-- A value may be an expression that has the property. -/
  leaf : ∀ {e : Option Node}, (∀ n, e = some n → P n) → value (.leaf e)
  /-- A value may be a pattern or literal itself. -/
  nested : ∀ {s : Fragment}, object s → value s
  /-- A pattern or literal grows by fields that have values. -/
  addField : ∀ {known s : Fragment} {field : String}, object known → value s →
    object (known.addField field s)

/-- Whatever the nodes are, the shapes that they tell are sound. -/
theorem inherited_sound : Inherited (fun _ => True) Sound Shape.Proper where
  child := fun _ _ => trivial
  unknown := sound_unknown
  leaf := fun _ => .leaf
  nested := Sound.proper
  addField := Sound.addField

variable {P : Node → Prop} {object value : Fragment → Prop}

theorem gives_keyName? {key : Option Node} (h : ∀ n, key = some n → able → n.Readable) :
    Gives able (fun r => keyName? key = .ok r) (keyName? key) where
  sound := fun _ hr => hr
  total := by
    intro ha
    unfold keyName?
    cases key with
    | none => exact ⟨_, rfl⟩
    | some n =>
        obtain ⟨text, htext⟩ := h n rfl ha n .root
        simp only [htext]
        split
        · exact ⟨_, rfl⟩
        · split
          · exact ⟨_, rfl⟩
          · exact ⟨_, rfl⟩

/-- A shape with the field that an element tells, if it tells one. -/
def withField (known : Fragment) : Option (String × Fragment) → Fragment
  | some (field, s) => known.addField field s
  | none => known

/-- A shape with the fields that some nodes tell, one after the other. -/
def withFields (tell? : Node → Except Fault (Option (String × Fragment))) (known : Fragment) :
    List Node → Except Fault Fragment
  | [] => return known
  | c :: cs => do withFields tell? (withField known (← tell? c)) cs

variable {tell? : Node → Except Fault (Option (String × Fragment))}

theorem Inherited.withField (H : Inherited P object value) {known : Fragment}
    {element : Option (String × Fragment)} (hk : object known)
    (he : ∀ e, element = some e → value e.2) : object (withField known element) := by
  cases element with
  | none => exact hk
  | some e => exact H.addField hk (he e rfl)

theorem told_of_value {field : String} {s : Fragment} (hs : value s) :
    ∀ e, some (field, s) = some e → value e.2 := by
  intro e he
  obtain rfl := Option.some.inj he
  exact hs

/-- Nodes that tell shapes of fields give the shape of an object. -/
theorem gives_withFields (H : Inherited P object value) {known : Fragment} {cs : List Node}
    (h : ∀ c ∈ cs, Gives able (fun r => ∀ e, r = some e → value e.2) (tell? c))
    (hk : object known) : Gives able object (withFields tell? known cs) := by
  induction cs generalizing known with
  | nil => exact .pure hk
  | cons c cs ih =>
      refine (h c List.mem_cons_self).bind fun element he => ?_
      exact ih (fun c hc => h c (List.mem_cons_of_mem _ hc)) (H.withField hk he)

/-- Once a field is known, something is. -/
theorem isUnknown_withFields {known s : Fragment} {cs : List Node}
    (h : withFields tell? known cs = .ok s) (hk : known.isUnknown = false) :
    s.isUnknown = false := by
  induction cs generalizing known with
  | nil =>
      obtain rfl := pure_eq_ok.mp h
      exact hk
  | cons c cs ih =>
      obtain ⟨element, _, h⟩ := bind_eq_ok.mp h
      cases element with
      | none => exact ih h hk
      | some e => exact ih h Shape.isUnknown_addField

/-- Nothing is known if no node tells a field. -/
theorem withFields_eq_unknown_iff {cs : List Node} :
    withFields tell? .unknown cs = .ok .unknown ↔ ∀ c ∈ cs, tell? c = .ok none := by
  induction cs with
  | nil => exact iff_of_true rfl (by simp)
  | cons c cs ih =>
      rw [withFields, bind_eq_ok]
      constructor
      · rintro ⟨element, he, h⟩
        cases element with
        | none =>
            intro c' hc'
            rcases List.mem_cons.mp hc' with rfl | hc'
            · exact he
            · exact ih.mp h c' hc'
        | some e => cases isUnknown_withFields h rfl
      · intro h
        exact ⟨none, h c List.mem_cons_self, ih.mpr fun c hc => h c (List.mem_cons_of_mem _ hc)⟩

/-- The field that one element of a pattern tells, and its shape. -/
def patternElement? (c : Node) : Except Fault (Option (String × Fragment)) := do
  if !c.isContent then return none
  else if c.kind = "shorthand_property_identifier_pattern" then return some (← c.text, .unknown)
  else if c.kind = "object_assignment_pattern" then
    match c.field? "left" with
    | some left =>
      if left.kind = "shorthand_property_identifier_pattern" then
        return some (← left.text, .leaf (c.field? "right"))
      else return none
    | none => return none
  else if c.kind = "pair_pattern" then
    match ← keyName? (c.field? "key") with
    | some key => return (← pairPatternShape? c).map (key, ·)
    | none => return none
  else return none

/-- The elements of a pattern tell their fields one after the other. -/
theorem patternElements_eq {known : Fragment} {cs : List Node} :
    patternElements known cs = withFields patternElement? known cs := by
  induction cs generalizing known with
  | nil => rw [patternElements]; rfl
  | cons c cs ih =>
      rw [patternElements, withFields, patternElement?]
      simp only [ih]
      split
      · rfl
      · split
        · rw [bind_assoc]; rfl
        · split
          · cases c.field? "left" with
            | none => rfl
            | some left =>
                dsimp only
                split
                · rw [bind_assoc]; rfl
                · rfl
          · split
            · rw [bind_assoc]
              refine bind_congr fun key => ?_
              cases key with
              | none => rfl
              | some key =>
                  dsimp only
                  rw [bind_assoc]
                  refine bind_congr fun shape => ?_
                  cases shape <;> rfl
            · rfl

theorem patternShape_eq (n : Node) :
    patternShape n = withFields patternElement? .unknown n.children := by
  obtain ⟨d, cs⟩ := n
  rw [patternShape, patternElements_eq]
  rfl

/-- An element of a pattern gives a field, if the value of a pair gives its shape. -/
theorem gives_patternElement? (H : Inherited P object value) {c : Node} (hc : P c)
    (hread : able → c.Readable)
    (hpair : Gives able (fun r => ∀ s, r = some s → value s) (pairPatternShape? c)) :
    Gives able (fun r => ∀ e, r = some e → value e.2) (patternElement? c) := by
  unfold patternElement?
  split
  · exact .pure (by simp)
  · split
    · refine (Node.gives_text.need hread).bind fun text _ => ?_
      exact .pure (told_of_value (H.nested H.unknown))
    · split
      · cases hl : c.field? "left" with
        | none => exact .pure (by simp)
        | some left =>
            dsimp only
            split
            · refine (Node.gives_text.need fun ha => (hread ha).field? hl).bind fun text _ => ?_
              exact .pure (told_of_value (H.leaf fun n hn => H.child hc (Node.mem_of_field? hn)))
            · exact .pure (by simp)
      · split
        · refine (gives_keyName? fun n hn ha => (hread ha).field? hn).bind fun key _ => ?_
          cases key with
          | none => exact .pure (by simp)
          | some key =>
              refine hpair.bind fun shape hshape => .pure fun e he => ?_
              obtain ⟨s, hs, rfl⟩ := Option.map_eq_some_iff.mp he
              exact hshape s hs
        · exact .pure (by simp)

/-- The elements of a pattern give a shape if the values of its pairs do. -/
theorem gives_patternElements (H : Inherited P object value) {cs : List Node}
    (hcs : ∀ c ∈ cs, P c) (hread : able → ∀ c ∈ cs, c.Readable)
    (hpair : ∀ c ∈ cs, Gives able (fun r => ∀ s, r = some s → value s) (pairPatternShape? c)) :
    Gives able object (patternElements .unknown cs) := by
  rw [patternElements_eq]
  refine gives_withFields H (fun c hc => ?_) H.unknown
  exact gives_patternElement? H (hcs c hc) (fun ha => hread ha c hc) (hpair c hc)

/-- A value that a pattern binds gives a shape, if what stands on the left of a default does. -/
theorem gives_boundShape (H : Inherited P object value) {d : NodeData} {cs : List Node}
    (hcs : ∀ c ∈ cs, P c) (helements : Gives able object (patternElements .unknown cs))
    (hnested : ∀ c ∈ cs, Gives able object (patternShape c)) :
    Gives able value (boundShape (.mk d cs)) := by
  have hleft : ∀ {ns : List Node}, (∀ c ∈ ns, Gives able object (patternShape c)) →
      Gives able (fun r => ∀ s, r = some s → value s) (nestedPatternShape? ns) := by
    intro ns hns
    induction ns with
    | nil => rw [nestedPatternShape?]; exact .pure (by simp)
    | cons c ns ih =>
        rw [nestedPatternShape?]
        split
        · split
          · refine (hns c List.mem_cons_self).bind fun s hs => .pure ?_
            intro t ht
            obtain rfl := Option.some.inj ht
            exact H.nested hs
          · exact .pure (by simp)
        · exact ih fun c hc => hns c (List.mem_cons_of_mem _ hc)
  rw [boundShape]
  split
  · exact helements.mono fun _ hs => H.nested hs
  · split
    · refine (hleft hnested).bind fun nested hs => ?_
      cases nested with
      | none => exact .pure (H.leaf fun n hn => hcs n (List.mem_of_find?_eq_some hn))
      | some s => exact .pure (hs s rfl)
    · exact .pure (H.nested H.unknown)

/-- A pair of a pattern has a shape if it has a value. -/
theorem pairPatternShape?_eq (n : Node) : pairPatternShape? n =
    match n.field? "value" with
    | none => pure none
    | some value => return some (← boundShape value) := by
  obtain ⟨d, cs⟩ := n
  rw [pairPatternShape?]
  show boundShape? cs = match Node.firstIn "value" cs with
    | none => pure none
    | some value => return some (← boundShape value)
  induction cs with
  | nil => rw [boundShape?]; rfl
  | cons c cs ih =>
      rw [boundShape?, Node.firstIn_cons]
      split
      · rfl
      · exact ih

/-- What is bound to a pattern has its shape; a default only tells a type. -/
theorem boundShape_eq (n : Node) : boundShape n =
    if n.kind = "object_pattern" then patternShape n
    else if n.kind = "assignment_pattern" then
      match n.field? "left" with
      | some left =>
        if left.kind = "object_pattern" then patternShape left
        else return .leaf (n.field? "right")
      | none => return .leaf (n.field? "right")
    else return .unknown := by
  obtain ⟨d, cs⟩ := n
  rw [boundShape, patternShape]
  have hnested : nestedPatternShape? cs = match Node.firstIn "left" cs with
      | some left =>
        if left.kind = "object_pattern" then return some (← patternShape left) else return none
      | none => return none := by
    induction cs with
    | nil => rw [nestedPatternShape?]; rfl
    | cons c cs ih =>
        rw [nestedPatternShape?, Node.firstIn_cons]
        split
        · rfl
        · exact ih
  rw [hnested]
  show _ = if d.kind = "object_pattern" then patternElements .unknown cs
    else if d.kind = "assignment_pattern" then
      match Node.firstIn "left" cs with
      | some left =>
        if left.kind = "object_pattern" then patternShape left
        else return .leaf (Node.firstIn "right" cs)
      | none => return .leaf (Node.firstIn "right" cs)
    else return .unknown
  split
  · rfl
  · split
    · cases Node.firstIn "left" cs with
      | none => rfl
      | some left =>
          dsimp only
          split
          · rw [bind_assoc]
            exact bind_pure _
          · rfl
    · rfl

/-- A pair of a pattern gives a shape if the values among its parts do. -/
theorem gives_boundShape? {cs : List Node} (h : ∀ c ∈ cs, Gives able value (boundShape c)) :
    Gives able (fun r => ∀ s, r = some s → value s) (boundShape? cs) := by
  induction cs with
  | nil => rw [boundShape?]; exact .pure (by simp)
  | cons c cs ih =>
      rw [boundShape?]
      split
      · refine (h c List.mem_cons_self).bind fun s hs => .pure ?_
        intro t ht
        obtain rfl := Option.some.inj ht
        exact hs
      · exact ih fun c hc => h c (List.mem_cons_of_mem _ hc)

/-- **A pattern gives the shape of an object, and so do all its parts.** -/
theorem gives_pattern (H : Inherited P object value) (n : Node) (hn : P n) :
    Gives n.Readable object (patternShape n) ∧ Gives n.Readable value (boundShape n) ∧
      Gives n.Readable (fun r => ∀ s, r = some s → value s) (pairPatternShape? n) := by
  induction n using Node.induction with
  | mk d cs ih =>
      have hcs : ∀ c ∈ cs, P c := fun c hc => H.child hn hc
      have hchild : ∀ c ∈ cs, (Node.mk d cs).Readable → c.Readable := fun c hc h => h.child hc
      have helements : Gives (Node.mk d cs).Readable object (patternElements .unknown cs) :=
        gives_patternElements H hcs (fun h c hc => hchild c hc h)
          fun c hc => (ih c hc (hcs c hc)).2.2.need (hchild c hc)
      refine ⟨?_, ?_, ?_⟩
      · rw [patternShape]; exact helements
      · exact gives_boundShape H hcs helements
          fun c hc => (ih c hc (hcs c hc)).1.need (hchild c hc)
      · rw [pairPatternShape?]
        exact gives_boundShape? fun c hc => (ih c hc (hcs c hc)).2.1.need (hchild c hc)

/-- The field that one member of a literal tells, and its shape. -/
def literalMember? (c : Node) : Except Fault (Option (String × Fragment)) := do
  if !c.isContent then return none
  else if c.kind = "shorthand_property_identifier" then return some (← c.text, .unknown)
  else if c.kind = "pair" then
    match ← keyName? (c.field? "key") with
    | some key => return some (key, ← pairShape c)
    | none => return none
  else return none

/-- The members of a literal tell their fields one after the other. -/
theorem literalMembers_eq {known : Fragment} {cs : List Node} :
    literalMembers known cs = withFields literalMember? known cs := by
  induction cs generalizing known with
  | nil => rw [literalMembers]; rfl
  | cons c cs ih =>
      rw [literalMembers, withFields, literalMember?]
      simp only [ih]
      split
      · rfl
      · split
        · rw [bind_assoc]; rfl
        · split
          · rw [bind_assoc]
            refine bind_congr fun key => ?_
            cases key with
            | none => rfl
            | some key => dsimp only; rw [bind_assoc]; rfl
          · rfl

theorem literalShape_eq (n : Node) :
    literalShape n = withFields literalMember? .unknown n.children := by
  obtain ⟨d, cs⟩ := n
  rw [literalShape, literalMembers_eq]
  rfl

/-- A pair of a literal has the shape of its value. -/
theorem pairShape_eq (n : Node) : pairShape n =
    match n.field? "value" with
    | none => return .leaf none
    | some value => valueShape value := by
  obtain ⟨d, cs⟩ := n
  rw [pairShape]
  show valueShapeIn cs = match Node.firstIn "value" cs with
    | none => return .leaf none
    | some value => valueShape value
  induction cs with
  | nil => rw [valueShapeIn]; rfl
  | cons c cs ih =>
      rw [valueShapeIn, Node.firstIn_cons]
      split
      · rfl
      · exact ih

/-- A literal with members has their shape. -/
theorem valueShape_eq (n : Node) : valueShape n =
    if n.kind = "object" ∧ n.children.any Node.isContent then literalShape n
    else return .leaf (some n) := by
  obtain ⟨d, cs⟩ := n
  rw [valueShape, literalShape]
  rfl

/-- A member of a literal gives a field, if the value of a pair gives its shape. -/
theorem gives_literalMember? (H : Inherited P object value) {c : Node}
    (hread : able → c.Readable) (hpair : Gives able value (pairShape c)) :
    Gives able (fun r => ∀ e, r = some e → value e.2) (literalMember? c) := by
  unfold literalMember?
  split
  · exact .pure (by simp)
  · split
    · refine (Node.gives_text.need hread).bind fun text _ => ?_
      exact .pure (told_of_value (H.nested H.unknown))
    · split
      · refine (gives_keyName? fun n hn ha => (hread ha).field? hn).bind fun key _ => ?_
        cases key with
        | none => exact .pure (by simp)
        | some key => exact hpair.bind fun s hs => .pure (told_of_value hs)
      · exact .pure (by simp)

/-- The members of a literal give a shape if the values of its pairs do. -/
theorem gives_literalMembers (H : Inherited P object value) {cs : List Node}
    (hread : able → ∀ c ∈ cs, c.Readable)
    (hpair : ∀ c ∈ cs, Gives able value (pairShape c)) :
    Gives able object (literalMembers .unknown cs) := by
  rw [literalMembers_eq]
  refine gives_withFields H (fun c hc => ?_) H.unknown
  exact gives_literalMember? H (fun ha => hread ha c hc) (hpair c hc)

theorem gives_valueShapeIn (H : Inherited P object value) {cs : List Node}
    (h : ∀ c ∈ cs, Gives able value (valueShape c)) : Gives able value (valueShapeIn cs) := by
  induction cs with
  | nil => rw [valueShapeIn]; exact .pure (H.nested H.unknown)
  | cons c cs ih =>
      rw [valueShapeIn]
      split
      · exact h c List.mem_cons_self
      · exact ih fun c hc => h c (List.mem_cons_of_mem _ hc)

/-- **A literal gives the shape of an object, and so do all its parts.** -/
theorem gives_literal (H : Inherited P object value) (n : Node) (hn : P n) :
    Gives n.Readable object (literalShape n) ∧ Gives n.Readable value (valueShape n) ∧
      Gives n.Readable value (pairShape n) := by
  induction n using Node.induction with
  | mk d cs ih =>
      have hcs : ∀ c ∈ cs, P c := fun c hc => H.child hn hc
      have hchild : ∀ c ∈ cs, (Node.mk d cs).Readable → c.Readable := fun c hc h => h.child hc
      have hmembers : Gives (Node.mk d cs).Readable object (literalMembers .unknown cs) :=
        gives_literalMembers H (fun h c hc => hchild c hc h)
          fun c hc => (ih c hc (hcs c hc)).2.2.need (hchild c hc)
      refine ⟨?_, ?_, ?_⟩
      · rw [literalShape]; exact hmembers
      · rw [valueShape]
        split
        · exact hmembers.mono fun _ hs => H.nested hs
        · refine .pure (H.leaf fun m hm => ?_)
          obtain rfl := Option.some.inj hm
          exact hn
      · rw [pairShape]
        exact gives_valueShapeIn H fun c hc => (ih c hc (hcs c hc)).2.1.need (hchild c hc)

theorem Chain.ne_nil {access : Node} {above : List Node} {fields : List String} {last : Focus}
    (h : Chain access above fields last) : fields ≠ [] := by
  cases h <;> simp

theorem Chain.keyed {access : Node} {above : List Node} {fields : List String} {last : Focus}
    (h : Chain access above fields last) :
    ∃ field, keyName? (access.field? "property") = .ok (some field) := by
  cases h with
  | last hkey => exact ⟨_, hkey⟩
  | on hkey => exact ⟨_, hkey⟩

/-- What a usage contributes is the shape of an object. -/
theorem Recognised.sound {f : Focus} {s : Fragment} (h : Recognised name f s) : Sound s := by
  cases h with
  | accessed _ _ hchain =>
      exact ⟨Shape.Proper.leaf.nest, Shape.isObject_nest fun hnil => absurd hnil hchain.ne_nil⟩
  | destructured _ _ _ _ _ hs => exact ((gives_pattern inherited_sound _ trivial).1.sound _ hs).nest
  | assigned _ _ _ _ _ hs => exact ((gives_literal inherited_sound _ trivial).1.sound _ hs).nest
  | initialised _ _ _ _ hs => exact (gives_literal inherited_sound _ trivial).1.sound _ hs

theorem Contributes.sound {f : Focus} {s : Fragment} (h : Contributes name f s) : Sound s := by
  cases h with
  | usage h => exact h.sound
  | nothing => exact sound_unknown

/-! ## Accesses -/

theorem startsAt_of_starts {access : Node} (h : Starts name access) :
    startsAt name access = .ok true := by
  unfold startsAt
  cases h with
  | name ho hk ht =>
      simp only [ho]
      rw [if_pos hk, ht]
      simp [bind, Except.bind, pure, Except.pure]
  | this ho hk ht hp hthis htext =>
      simp only [ho, ht, hp]
      rw [if_neg (by rw [hk]; simp), if_pos hk, if_pos hthis, htext]
      simp [bind, Except.bind, pure, Except.pure]

theorem gives_startsAt {access : Node} :
    Gives access.Readable (fun r => r = true ↔ Starts name access) (startsAt name access) := by
  have key : Gives access.Readable (fun r => r = true → Starts name access)
      (startsAt name access) := by
    unfold startsAt
    cases ho : access.field? "object" with
    | none => exact .pure (by simp)
    | some object =>
        dsimp only
        split
        · rename_i hk
          refine (Node.gives_text.need fun h => h.field? ho).bind fun text htext => .pure ?_
          rw [beq_iff_eq]
          rintro rfl
          exact .name ho hk htext
        · split
          · rename_i hk
            cases ht : object.field? "object" with
            | none => exact .pure (by simp)
            | some this =>
                cases hp : object.field? "property" with
                | none => exact .pure (by simp)
                | some property =>
                    dsimp only
                    split
                    · rename_i hthis
                      refine (Node.gives_text.need fun h => (h.field? ho).field? hp).bind
                        fun text htext => .pure ?_
                      rw [beq_iff_eq]
                      rintro rfl
                      exact .this ho hk ht hp hthis htext
                    · exact .pure (by simp)
          · exact .pure (by simp)
  refine key.exact.mono fun r ⟨hr, hpos⟩ => ⟨hpos, fun hstarts => ?_⟩
  exact Except.ok.inj (hr.symm.trans (startsAt_of_starts hstarts))

/-- The way outwards from an access, if the access has a name. -/
theorem gives_outward {access : Node} {above : List Node} :
    Gives (Focus.Readable ⟨access, above⟩)
      (fun r => (r = ([], none) ∧ keyName? (access.field? "property") = .ok none) ∨
        ∃ last, r.2 = some last ∧ Chain access above r.1 last)
      (outward access above) := by
  have hkey : ∀ {access : Node} {above : List Node}, Gives (Focus.Readable ⟨access, above⟩)
      (fun r => keyName? (access.field? "property") = .ok r)
      (keyName? (access.field? "property")) :=
    gives_keyName? fun n hn h => h.node.field? hn
  induction above generalizing access with
  | nil =>
      rw [outward]
      refine hkey.bind fun key hk => ?_
      cases key with
      | none => exact .pure (.inl ⟨rfl, hk⟩)
      | some field => exact .pure (.inr ⟨_, rfl, .last hk (by simp)⟩)
  | cons parent above ih =>
      rw [outward]
      refine hkey.bind fun key hk => ?_
      cases key with
      | none => exact .pure (.inl ⟨rfl, hk⟩)
      | some field =>
          dsimp only
          split
          · rename_i hon
            have hread :
                Focus.Readable ⟨access, parent :: above⟩ → Focus.Readable ⟨parent, above⟩ :=
              fun h a ha => h a (List.mem_cons_of_mem _ ha)
            -- the access is the object of its parent, so the chain may go on there
            refine (ih.need hread).bind fun r hr => ?_
            obtain ⟨fields, outermost⟩ := r
            rcases hr with ⟨hr, hnone⟩ | ⟨last, hlast, hchain⟩
            · obtain ⟨rfl, rfl⟩ := Prod.mk.inj hr
              refine .pure (.inr ⟨_, rfl, .last hk ?_⟩)
              rintro parent' rest h -
              obtain ⟨rfl, -⟩ := List.cons.inj h
              exact hnone
            · dsimp only at hlast
              subst hlast
              exact .pure (.inr ⟨last, rfl, .on hk hon hchain⟩)
          · rename_i hoff
            refine .pure (.inr ⟨_, rfl, .last hk ?_⟩)
            rintro parent' rest h hon
            obtain ⟨rfl, -⟩ := List.cons.inj h
            exact absurd hon hoff

/-- The objects of an access, one by one, start with its own. -/
theorem objectChain_eq (n : Node) :
    objectChain n = n :: ((n.field? "object").map objectChain).getD [] := by
  have key : ∀ cs : List Node,
      objectChainIn cs = ((Node.firstIn "object" cs).map objectChain).getD [] := by
    intro cs
    induction cs with
    | nil => rfl
    | cons c cs ih =>
        rw [objectChainIn, Node.firstIn_cons]
        split
        · rfl
        · exact ih
  obtain ⟨d, cs⟩ := n
  rw [objectChain, key]
  rfl

theorem objectChain_of_object {e object : Node} (h : e.field? "object" = some object) :
    objectChain e = e :: objectChain object := by
  rw [objectChain_eq, h]
  rfl

theorem AccessPath.kind {e : Node} {path : List String} (h : AccessPath name e path) :
    e.kind = "identifier" ∨ e.kind = "member_expression" := by
  cases h with
  | name hk => exact .inl hk
  | this hk => exact .inr hk
  | field hk => exact .inr hk

theorem chainPath?_of_accessPath {e : Node} {path : List String} (h : AccessPath name e path) :
    chainPath? name (objectChain e) = .ok (some path) := by
  induction h with
  | @name e hk ht =>
      rw [objectChain_eq, chainPath?, if_pos hk, ht]
      simp [bind, Except.bind, pure, Except.pure]
  | @this e object hk ho hthis hkey =>
      rw [objectChain_of_object ho, chainPath?, if_neg (by rw [hk]; simp), if_pos hk, hkey,
        objectChain_eq object]
      simp [bind, Except.bind, pure, Except.pure, hthis]
  | @field e object path field hk ho hkey hobject ih =>
      -- an object that a path leads to is a name or an access
      have hthis : object.kind ≠ "this" := by
        rcases hobject.kind with hk | hk <;> rw [hk] <;> simp
      rw [objectChain_of_object ho, chainPath?, if_neg (by rw [hk]; simp), if_pos hk, hkey]
      rw [objectChain_eq object] at ih ⊢
      simp [bind, Except.bind, pure, Except.pure, hthis, ih]

/-- The path from the binding to an expression is found if there is one. -/
theorem gives_chainPath? (e : Node) :
    Gives e.Readable (fun r => ∀ path, r = some path ↔ AccessPath name e path)
      (chainPath? name (objectChain e)) := by
  have key : Gives e.Readable (fun r => ∀ path, r = some path → AccessPath name e path)
      (chainPath? name (objectChain e)) := by
    induction e using Node.induction with
    | mk d cs ih =>
        rw [objectChain_eq, chainPath?]
        split
        · rename_i hk
          refine Node.gives_text.bind fun text htext => .pure fun path hpath => ?_
          split at hpath
          · rename_i hname
            obtain rfl := Option.some.inj hpath
            exact .name hk (hname ▸ htext)
          · cases hpath
        · split
          · rename_i hk
            refine (gives_keyName? fun n hn h => h.field? hn).bind fun key hkey => ?_
            cases ho : (Node.mk d cs).field? "object" with
            | none => exact .pure (by simp)
            | some object =>
                rw [Option.map_some, Option.getD_some, objectChain_eq object]
                cases key with
                | none => exact .pure (by simp)
                | some field =>
                    dsimp only
                    split
                    · rename_i hthis
                      refine .pure fun path hpath => ?_
                      obtain rfl := Option.some.inj hpath
                      exact .this hk ho hthis.1 (hthis.2 ▸ hkey)
                    · rw [← objectChain_eq object]
                      have hmem : object ∈ cs := Node.mem_of_field? ho
                      refine ((ih object hmem).need fun h => h.field? ho).bind fun r hr => ?_
                      cases r with
                      | none => exact .pure (by simp)
                      | some path =>
                          refine .pure fun path' hpath => ?_
                          obtain rfl := Option.some.inj hpath
                          exact .field hk ho hkey (hr path rfl)
          · exact .pure (by simp)
  -- the other way round, a path that there is would have been found
  refine key.exact.mono fun r ⟨hr, hpos⟩ path => ⟨hpos path, fun hpath => ?_⟩
  exact Except.ok.inj (hr.symm.trans (chainPath?_of_accessPath hpath))

/-! ## What a node contributes -/

/-- The kinds of nodes that may use a binding. -/
def usageKinds : List String :=
  ["member_expression", "variable_declarator", "assignment_expression"] ++ classFieldKinds

/-- Other nodes tell nothing. -/
theorem fragment_of_kind {f : Focus} (hk : f.node.kind ∉ usageKinds) :
    fragment name f = .ok .unknown := by
  simp only [usageKinds, List.mem_append, List.mem_cons, List.not_mem_nil, or_false, not_or] at hk
  obtain ⟨⟨hk₁, hk₂, hk₃⟩, hk₄⟩ := hk
  unfold fragment
  dsimp only
  rw [if_neg hk₁, if_neg hk₂, if_neg hk₃, if_neg hk₄]
  rfl

theorem gives_accessFragment {f : Focus} (hk : f.node.kind = "member_expression") :
    Gives f.Readable (Contributes name f) (accessFragment name f) := by
  have hnothing : (∀ fields last, Starts name f.node → ¬ Chain f.node f.above fields last) →
      Contributes name f .unknown := by
    refine fun hno => .nothing fun shape h => ?_
    rcases h with ⟨_, hs, hc⟩ | ⟨hk', _⟩ | ⟨hk', _⟩ | ⟨hk', _⟩
    · exact hno _ _ hs hc
    all_goals simp [hk, classFieldKinds] at hk'
  unfold accessFragment
  refine (gives_startsAt.need Focus.Readable.node).bind fun starts hstarts => ?_
  cases starts with
  | false =>
      refine .pure (hnothing fun _ _ hs => ?_)
      exact absurd (hstarts.mpr hs) (by simp)
  | true =>
      rw [if_pos rfl]
      refine gives_outward.bind fun r hr => ?_
      obtain ⟨fields, outermost⟩ := r
      rcases hr with ⟨hr, hnone⟩ | ⟨last, hlast, hchain⟩
      · obtain ⟨rfl, rfl⟩ := Prod.mk.inj hr
        refine .pure (hnothing fun _ _ _ hchain => ?_)
        obtain ⟨field, hfield⟩ := hchain.keyed
        cases hnone.symm.trans hfield
      · dsimp only at hlast hchain
        subst hlast
        obtain ⟨field, fields, rfl⟩ := List.exists_cons_of_ne_nil hchain.ne_nil
        exact .pure (.usage (.accessed hk (hstarts.mp rfl) hchain))

/-- What is told of a target by a node of a kind that describes it. -/
def describedFragment (kind : String) (shapeOf : Node → Except Fault Fragment) (name : String)
    (description target : Option Node) : Except Fault Fragment := do
  match description with
  | some n =>
    if n.kind = kind then
      match ← path? name target with
      | some path => return .nest path (← shapeOf n)
      | none => return .unknown
    else return .unknown
  | none => return .unknown

/-- A node that describes the binding contributes the shape that it describes, at the path. -/
theorem gives_describedFragment {f : Focus} {kind description target : String}
    {shapeOf : Node → Except Fault Fragment} (hshape : ∀ n, Gives n.Readable Sound (shapeOf n))
    (husage : ∀ {n t path shape}, f.node.field? description = some n → n.kind = kind →
      f.node.field? target = some t → AccessPath name t path → shapeOf n = .ok shape →
      Recognised name f (.nest path shape))
    (hnothing : (∀ n t path, f.node.field? description = some n → n.kind = kind →
      f.node.field? target = some t → ¬ AccessPath name t path) → Contributes name f .unknown) :
    Gives f.Readable (Contributes name f) (describedFragment kind shapeOf name
      (f.node.field? description) (f.node.field? target)) := by
  unfold describedFragment
  cases hn : f.node.field? description with
  | none => exact .pure (hnothing (by simp [hn]))
  | some n =>
      dsimp only
      split
      · rename_i hk
        unfold path?
        cases ht : f.node.field? target with
        | none => exact .pure (hnothing (by simp [ht]))
        | some t =>
            dsimp only
            refine ((gives_chainPath? t).need fun h => h.node.field? ht).bind fun r hr => ?_
            cases r with
            | none =>
                -- the target is not reached from the binding
                refine .pure (hnothing fun n' t' path _ _ ht' hpath => ?_)
                obtain rfl := Option.some.inj (ht.symm.trans ht')
                exact absurd ((hr path).mpr hpath) (by simp)
            | some path =>
                refine ((hshape n).exact.need fun h => h.node.field? hn).bind
                  fun s hs => .pure ?_
                exact .usage (husage hn hk ht ((hr path).mp rfl) hs.1)
      · rename_i hk
        refine .pure (hnothing fun n' _ _ hn' hk' => ?_)
        obtain rfl := Option.some.inj (hn.symm.trans hn')
        exact absurd hk' hk

theorem gives_destructuringFragment {f : Focus} (hk : f.node.kind = "variable_declarator") :
    Gives f.Readable (Contributes name f)
      (destructuringFragment name (f.node.field? "name") (f.node.field? "value")) := by
  refine gives_describedFragment (fun n => (gives_pattern inherited_sound n trivial).1)
    (.destructured hk) fun hno => ?_
  refine .nothing fun shape h => ?_
  rcases h with ⟨hk', _⟩ | ⟨_, hn, hp, hv, hpath, _⟩ | ⟨hk', _⟩ | ⟨hk', _⟩
  case destructured => exact hno _ _ _ hn hp hv hpath
  all_goals simp [hk, classFieldKinds] at hk'

theorem gives_assignmentFragment {f : Focus} (hk : f.node.kind = "assignment_expression") :
    Gives f.Readable (Contributes name f)
      (assignmentFragment name (f.node.field? "left") (f.node.field? "right")) := by
  refine gives_describedFragment (fun n => (gives_literal inherited_sound n trivial).1)
    (fun hn ho ht hpath hs => .assigned hk ht hn ho hpath hs) fun hno => ?_
  refine .nothing fun shape h => ?_
  rcases h with ⟨hk', _⟩ | ⟨hk', _⟩ | ⟨_, hl, hr, ho, hpath, _⟩ | ⟨hk', _⟩
  case assigned => exact hno _ _ _ hr ho hl hpath
  all_goals simp [hk, classFieldKinds] at hk'

theorem gives_classFieldFragment {f : Focus} (hk : f.node.kind ∈ classFieldKinds) :
    Gives f.Readable (Contributes name f) (classFieldFragment name f.node) := by
  have hkinds : f.node.kind = "public_field_definition" ∨ f.node.kind = "field_definition" := by
    simpa [classFieldKinds] using hk
  have hnothing : (∀ literal,
      keyName? (f.node.field? "name" <|> f.node.field? "property") = .ok (some name) →
      f.node.field? "value" = some literal → literal.kind ≠ "object") →
      Contributes name f .unknown := by
    refine fun hno => .nothing fun shape h => ?_
    rcases h with ⟨hk', _⟩ | ⟨hk', _⟩ | ⟨hk', _⟩ | ⟨_, hkey, hv, ho, _⟩
    case initialised => exact hno _ hkey hv ho
    all_goals rcases hkinds with hk | hk <;> simp [hk] at hk'
  have hread : ∀ n, (f.node.field? "name" <|> f.node.field? "property") = some n →
      f.Readable → n.Readable := by
    intro n hn h
    cases hname : f.node.field? "name" with
    | none => rw [hname] at hn; exact h.node.field? hn
    | some m =>
        rw [hname] at hn
        obtain rfl := Option.some.inj hn
        exact h.node.field? hname
  unfold classFieldFragment
  refine (gives_keyName? hread).bind fun key hkey => ?_
  split
  · rename_i hname
    subst hname
    cases hv : f.node.field? "value" with
    | none => exact .pure (hnothing (by simp [hv]))
    | some value =>
        dsimp only
        split
        · rename_i ho
          refine ((gives_literal inherited_sound value trivial).1.exact.need
            fun h => h.node.field? hv).mono fun s hs => ?_
          exact .usage (.initialised hk hkey hv ho hs.1)
        · rename_i ho
          refine .pure (hnothing fun literal _ hv' => ?_)
          obtain rfl := Option.some.inj (hv.symm.trans hv')
          exact ho
  · rename_i hname
    refine .pure (hnothing fun _ hkey' _ _ => ?_)
    exact hname (Except.ok.inj (hkey.symm.trans hkey'))

/-- **A node contributes what the way in which it uses the binding tells, or nothing.** -/
theorem gives_fragment (name : String) (f : Focus) :
    Gives f.Readable (Contributes name f) (fragment name f) := by
  unfold fragment
  dsimp only
  split
  · rename_i hk; exact gives_accessFragment hk
  · rename_i hk₁
    split
    · rename_i hk; exact gives_destructuringFragment hk
    · rename_i hk₂
      split
      · rename_i hk; exact gives_assignmentFragment hk
      · rename_i hk₃
        split
        · rename_i hk; exact gives_classFieldFragment hk
        · rename_i hk₄
          refine .pure (.nothing fun shape h => ?_)
          rcases h with ⟨hk, _⟩ | ⟨hk, _⟩ | ⟨hk, _⟩ | ⟨hk, _⟩
          · exact hk₁ hk
          · exact hk₂ hk
          · exact hk₃ hk
          · exact hk₄ hk

/-- The nodes of a scope contribute one by one, in the order of the source. -/
theorem gives_fragments (scope : Focus) (name : String) :
    Gives scope.Readable (List.Forall₂ (Contributes name) scope.descendants)
      (fragments scope name) :=
  .mapM fun f hf => (gives_fragment name f).need fun h => h.below (Focus.mem_descendants_iff.mp hf)

/-! ## What a scope tells -/

/-- What is told by some fragments together. -/
structure Tells (fragments : List Fragment) (told : Option (Shape Node)) : Prop where
  /-- Nothing is told if no fragment has a path. -/
  none_iff : told = none ↔ ∀ s ∈ fragments, ∀ p, ¬ s.HasPath p
  /-- The paths are those of the fragments and the ways there. -/
  paths : ∀ p, p ≠ [] → ((∃ t, told = some t ∧ t.HasPath p) ↔
    ∃ s ∈ fragments, ∃ q, s.HasPath q ∧ p <+: q)
  /-- No two fields of an object share a name. -/
  distinct : ∀ t, told = some t → ∀ p u, t.at? p = some u → (u.fields.map (·.1)).Nodup
  /-- Where no fragment goes on, the first expression that a fragment has there is kept. -/
  leaves : ∀ t, told = some t → ∀ p, t.HasPath p →
    (∀ s ∈ fragments, ∀ q, s.HasPath q → p <+: q → q = p) →
    t.at? p = some (.leaf (fragments.findSome? (·.expressionAt? p)))

/-- The merge of some fragments tells what they tell together. -/
theorem tells_foldl_merge {frags : List Fragment} (h : ∀ s ∈ frags, Sound s)
    {told : Shape Node} (htold : frags.foldl Shape.merge .unknown = told) :
    Tells frags (if told.isUnknown then none else some told) := by
  have hproper : ∀ s ∈ frags, s.Proper := fun s hs => (h s hs).proper
  have htp : told.Proper := htold ▸ Shape.proper_foldl_merge .leaf hproper
  have hto : told.IsObject :=
    htold ▸ Shape.isObject_foldl_merge Shape.isObject_unknown fun s hs => (h s hs).object
  -- the fold starts with nothing, so its paths are those of the fragments
  have hpaths : ∀ p, told.HasPath p ↔ ∃ s ∈ frags, s.HasPath p := by
    intro p
    unfold Shape.HasPath
    rw [← htold, Shape.isSome_at?_foldl_merge hproper]
    constructor
    · rintro ⟨hp, hsome | ⟨s, hs, hsome⟩⟩
      · rw [Shape.at?_unknown hp] at hsome
        cases hsome
      · exact ⟨s, hs, hp, hsome⟩
    · rintro ⟨s, hs, hp, hsome⟩
      exact ⟨hp, .inr ⟨s, hs, hsome⟩⟩
  have hunknown := Shape.isUnknown_iff htp hto
  have hsome : ∀ {t}, (if told.isUnknown then none else some told) = some t → t = told := by
    intro t ht
    split at ht
    · cases ht
    · exact (Option.some.inj ht).symm
  constructor
  case none_iff =>
    split
    · rename_i hu
      refine iff_of_true rfl fun s hs p hp => ?_
      exact hunknown.mp hu p ((hpaths p).mpr ⟨s, hs, hp⟩)
    · rename_i hu
      refine iff_of_false (by simp) fun hno => hu (hunknown.mpr fun p hp => ?_)
      obtain ⟨s, hs, hp⟩ := (hpaths p).mp hp
      exact hno s hs p hp
  case paths =>
    intro p hp
    constructor
    · rintro ⟨t, ht, hpath⟩
      obtain rfl := hsome ht
      obtain ⟨s, hs, hsp⟩ := (hpaths p).mp hpath
      exact ⟨s, hs, p, hsp, List.prefix_rfl⟩
    · rintro ⟨s, hs, q, hq, hpq⟩
      have hpath : told.HasPath p := (hpaths p).mpr ⟨s, hs, hq.of_prefix hpq hp⟩
      refine ⟨told, ?_, hpath⟩
      rw [if_neg]
      exact fun hu => hunknown.mp hu p hpath
  case distinct =>
    intro t ht p u hu
    obtain rfl := hsome ht
    exact (htp.at? hu).nodup_fields
  case leaves =>
    intro t ht p hp hfinal
    obtain rfl := hsome ht
    obtain ⟨u, hu⟩ := Option.isSome_iff_exists.mp hp.2
    -- no fragment goes on from here, so each has a leaf at most
    have hleaf : ∀ s ∈ Shape.unknown :: frags, ∀ u, s.at? p = some u → ∃ e, u = .leaf e := by
      intro s hs u hu
      rcases List.mem_cons.mp hs with rfl | hs
      · rw [Shape.at?_unknown hp.1] at hu
        cases hu
      · exact (hproper s hs).leaf_of_final hu (hfinal s hs)
    rw [← htold] at hu
    have heq := Shape.eq_leaf_of_at?_foldl_merge hproper hleaf u hu
    rw [List.findSome?_cons, Shape.expressionAt?_unknown] at heq
    rw [← htold, hu, heq]

/--
**What a scope tells of a binding.** If everything around the scope can be read, the scope
tells something, and what it tells is what its nodes contribute together: each node what
the way in which it uses the binding tells.
-/
theorem gather_tells (scope : Focus) (name : String) :
    Gives scope.Readable
      (fun told => ∃ frags, List.Forall₂ (Contributes name) scope.descendants frags ∧
        Tells frags told)
      (gather scope name) := by
  unfold gather
  refine (gives_fragments scope name).bind fun frags hfrags => .pure ⟨frags, hfrags, ?_⟩
  refine tells_foldl_merge (fun s hs => ?_) rfl
  obtain ⟨f, _, hf⟩ := exists_of_mem_forall₂ hfrags hs
  exact hf.sound

/-- A scope tells nothing of a binding if none of its nodes contributes anything. -/
theorem gather_eq_none_iff {scope : Focus} :
    gather scope name = .ok none ↔ ∀ f ∈ scope.descendants, fragment name f = .ok .unknown := by
  unfold gather
  rw [bind_eq_ok]
  constructor
  · rintro ⟨frags, hfrags, hnone⟩ f hf
    obtain ⟨s, hs, hfs⟩ := exists_of_mem_mapM hfrags hf
    have hcontributes := (gives_fragments scope name).sound frags hfrags
    have hsound : ∀ s ∈ frags, Sound s := by
      intro s hs
      obtain ⟨g, _, hg⟩ := exists_of_mem_forall₂ hcontributes hs
      exact hg.sound
    -- if nothing is told there is no path, and a sound fragment without one is unknown
    have htells := tells_foldl_merge hsound rfl
    have hpaths := htells.none_iff.mp (pure_eq_ok.mp hnone) s hs
    have hunknown := (Shape.isUnknown_iff (hsound s hs).proper (hsound s hs).object).mpr hpaths
    rw [hfs, Shape.eq_unknown_of_isUnknown hunknown]
  · intro h
    refine ⟨_, mapM_eq_replicate h, ?_⟩
    rw [Shape.foldl_merge_unknown]
    rfl

end ScriptTypes.Usage
