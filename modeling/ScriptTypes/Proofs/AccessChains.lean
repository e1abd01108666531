import ScriptTypes.Proofs.Fragments
import ScriptTypes.Proofs.Samples

/-!
# Chains of accesses, from both ends

The path from the binding to an expression is found from the expression downwards: to its
object, to the object of that, and so on to the name or to `this`. What an access tells is
found the other way round, from the first access upwards through the ancestors. The two tell
a first access by different tests, and names by different tests, and still they agree: of
all accesses on the way down from an expression that has a path, exactly one is a first one,
and the way up from there passes the expression with the names of its path.

The names have to be names: a property in quotes would be one for the way down and none for
the way up.
-/

namespace ScriptTypes.Usage

open Syntax

variable {name : String} {e object : Node} {above : List Node} {path : List String}

/-! ## Names and paths -/

/-- The properties of all accesses in a tree are names, private ones among them. -/
def NamedProperties (root : Node) : Prop :=
  ∀ n, root.Within n → n.kind = "member_expression" → ∀ property ∈ n.field? "property",
    property.kind ∈ ["property_identifier", "identifier", "private_property_identifier"]

instance (root : Node) : Decidable (NamedProperties root) :=
  decidable_of_iff _ Node.forall_within_iff.symm

/-- An access has a static name, which no private one is. -/
def StaticName (access : Node) (field : String) : Prop :=
  ∃ property, access.field? "property" = some property ∧
    (property.kind = "property_identifier" ∨ property.kind = "identifier") ∧
    property.text = .ok field

/-- An expression is the binding, or extends it by accesses with static names. -/
inductive Extends (name : String) : Node → List String → Prop where
  /-- The name of the binding. -/
  | name {e : Node} : e.kind = "identifier" → e.text = .ok name → Extends name e []
  /-- The binding as a field of `this`. -/
  | this {e this : Node} : e.kind = "member_expression" → e.field? "object" = some this →
      this.kind = "this" → StaticName e name → Extends name e []
  /-- One access more. -/
  | access {e object : Node} {path : List String} {field : String} :
      e.kind = "member_expression" → e.field? "object" = some object → StaticName e field →
      Extends name object path → Extends name e (path ++ [field])

theorem StaticName.keyName? {access : Node} {field : String} (h : StaticName access field) :
    keyName? (access.field? "property") = .ok (some field) := by
  obtain ⟨property, hproperty, hkind, htext⟩ := h
  unfold Usage.keyName?
  rw [hproperty]
  dsimp only
  rw [if_pos hkind, htext]
  rfl

/-- Where properties are names, the name that is read is a static one. -/
theorem NamedProperties.staticName (h : NamedProperties e) (hk : e.kind = "member_expression")
    {field : String} (hkey : keyName? (e.field? "property") = .ok (some field)) :
    StaticName e field := by
  cases hproperty : e.field? "property" with
  | none => rw [hproperty] at hkey; cases hkey
  | some property =>
      have hkinds := h e .root hk property hproperty
      rw [hproperty] at hkey
      unfold Usage.keyName? at hkey
      dsimp only at hkey
      split at hkey
      · rename_i hkind
        obtain ⟨text, htext, h⟩ := bind_eq_ok.mp hkey
        obtain rfl := Option.some.inj (pure_eq_ok.mp h)
        exact ⟨property, hproperty, hkind, htext⟩
      · split at hkey
        · rename_i hstring
          rw [hstring] at hkinds
          exact absurd hkinds (by decide)
        · cases hkey

theorem NamedProperties.child {n c : Node} (h : NamedProperties n) (hc : c ∈ n.children) :
    NamedProperties c := fun m hm => h m ((Node.Within.child .root hc).trans hm)

theorem Extends.accessPath (h : Extends name e path) : AccessPath name e path := by
  induction h with
  | name hk ht => exact .name hk ht
  | this hk ho hthis hname => exact .this hk ho hthis hname.keyName?
  | access hk ho hname _ ih => exact .field hk ho hname.keyName? ih

/-- **Where properties are names, the paths that are found are extensions of the binding.** -/
theorem extends_iff_accessPath (h : NamedProperties e) :
    Extends name e path ↔ AccessPath name e path := by
  refine ⟨Extends.accessPath, fun hpath => ?_⟩
  induction hpath with
  | name hk ht => exact .name hk ht
  | this hk ho hthis hkey => exact .this hk ho hthis (h.staticName hk hkey)
  | field hk ho hkey _ ih =>
      exact .access hk ho (h.staticName hk hkey) (ih (h.child (Node.mem_of_field? ho)))

/-- What extends the binding is a name or an access, so it is not `this`. -/
theorem Extends.kind_ne_this (h : Extends name e path) : e.kind ≠ "this" := by
  rcases h.accessPath.kind with hk | hk <;> rw [hk] <;> decide

/-! ## The way down -/

mutual

/-- An expression, the object that it accesses, and so on as long as there are accesses. -/
def objectsOf (above : List Node) : Node → List Focus
  | .mk d cs => ⟨.mk d cs, above⟩ ::
      if d.kind = "member_expression" then objectsIn (.mk d cs :: above) cs else []

/-- The objects on the way down from the first node that fills the field of an object. -/
def objectsIn (above : List Node) : List Node → List Focus
  | [] => []
  | c :: cs => if c.data.field = some "object" then objectsOf above c else objectsIn above cs

end

theorem objectsIn_eq (above : List Node) (cs : List Node) :
    objectsIn above cs = ((Node.firstIn "object" cs).map (objectsOf above)).getD [] := by
  induction cs with
  | nil => rfl
  | cons c cs ih =>
      rw [objectsIn, Node.firstIn_cons]
      split
      · rfl
      · exact ih

theorem objectsOf_of_object (hk : e.kind = "member_expression")
    (ho : e.field? "object" = some object) :
    objectsOf above e = ⟨e, above⟩ :: objectsOf (e :: above) object := by
  obtain ⟨d, cs⟩ := e
  have hk : d.kind = "member_expression" := hk
  have ho : Node.firstIn "object" cs = some object := ho
  rw [objectsOf, if_pos hk, objectsIn_eq, ho]
  rfl

theorem objectsOf_of_kind_ne (hk : e.kind ≠ "member_expression") :
    objectsOf above e = [⟨e, above⟩] := by
  obtain ⟨d, cs⟩ := e
  have hk : d.kind ≠ "member_expression" := hk
  rw [objectsOf, if_neg hk]

/-- All objects on the way down stand below the expression. -/
theorem below_of_mem_objectsOf {g : Focus} (h : g ∈ objectsOf above e) :
    (Focus.mk e above).Below g := by
  induction e using Node.induction generalizing above with
  | mk d cs ih =>
      rw [objectsOf] at h
      rcases List.mem_cons.mp h with rfl | h
      · exact .self
      · split at h
        · rw [objectsIn_eq] at h
          cases ho : Node.firstIn "object" cs with
          | none => rw [ho] at h; cases h
          | some object =>
              rw [ho] at h
              have hmem : object ∈ cs := List.mem_of_find?_eq_some ho
              exact (Focus.Below.child .self hmem).trans (ih object hmem h)
        · cases h

/-! ## First accesses -/

/-- A place tells nothing of the binding by an access, since it is no first one. -/
structure Silent (name : String) (g : Focus) : Prop where
  /-- It is not told to be the first one, whether it is an access or, like the binding and `this`,
  has no object. -/
  later : g.node.kind = "member_expression" ∨ g.node.field? "object" = none →
    startsAt name g.node = .ok false
  /-- It tells nothing. -/
  nothing : fragment name g = .ok .unknown

/-- What accesses nothing is not told to be a first access. -/
theorem startsAt_of_none {access : Node} (h : access.field? "object" = none) :
    startsAt name access = .ok false := by
  unfold startsAt
  rw [h]
  rfl

theorem silent_of_later {g : Focus} (hk : g.node.kind = "member_expression")
    (h : startsAt name g.node = .ok false) : Silent name g := by
  refine ⟨fun _ => h, ?_⟩
  unfold fragment
  dsimp only
  rw [if_pos hk, accessFragment, h]
  rfl

theorem silent_of_kind {g : Focus} (h : g.node.kind ∉ usageKinds) : Silent name g := by
  refine ⟨?_, fragment_of_kind h⟩
  rintro (hk | hnone)
  · exact absurd (by rw [hk]; decide) h
  · exact startsAt_of_none hnone

/-- The access of a field of the binding is a first one. -/
theorem Extends.starts (h : Extends name object []) (ho : e.field? "object" = some object) :
    startsAt name e = .ok true := by
  generalize hpath : ([] : List String) = path at h
  cases h with
  | name hkind htext => exact startsAt_of_starts (.name ho hkind htext)
  | this hkind hthis hkindThis hname =>
      obtain ⟨property, hproperty, _, htext⟩ := hname
      exact startsAt_of_starts (.this ho hkind hthis hproperty hkindThis htext)
  | access => exact absurd hpath.symm (List.concat_ne_nil _ _)

/-- The access of a field of anything below the binding is not a first one. -/
theorem Extends.later (h : Extends name object path) (hpath : path ≠ [])
    (ho : e.field? "object" = some object) : startsAt name e = .ok false := by
  cases h with
  | name => exact absurd rfl hpath
  | this => exact absurd rfl hpath
  | access hkind hinner hname hrest =>
      obtain ⟨property, hproperty, _⟩ := hname
      unfold startsAt
      rw [ho]
      dsimp only
      rw [if_neg (by rw [hkind]; decide), if_pos hkind, hinner, hproperty]
      dsimp only
      rw [if_neg hrest.kind_ne_this]
      rfl

/-- Below the binding itself there is no first access. -/
theorem Extends.silent (h : Extends name e []) : ∀ g ∈ objectsOf above e, Silent name g := by
  generalize hpath : ([] : List String) = path at h
  cases h with
  | name hk _ =>
      intro g hg
      rw [objectsOf_of_kind_ne (by rw [hk]; decide)] at hg
      obtain rfl := List.mem_singleton.mp hg
      exact silent_of_kind (by rw [hk]; decide)
  | @this _ this hk ho hthis _ =>
      intro g hg
      rw [objectsOf_of_object hk ho, objectsOf_of_kind_ne (by rw [hthis]; decide)] at hg
      rcases List.mem_pair.mp hg with rfl | rfl
      · refine silent_of_later hk ?_
        unfold startsAt
        dsimp only
        rw [ho]
        dsimp only
        rw [if_neg (by rw [hthis]; decide), if_neg (by rw [hthis]; decide)]
        rfl
      · exact silent_of_kind (by rw [hthis]; decide)
  | access => exact absurd hpath.symm (List.concat_ne_nil _ _)

/-- The last name of a path is that of the outermost access. -/
theorem Extends.staticName {field : String} (h : Extends name e (path ++ [field])) :
    StaticName e field := by
  generalize hfull : path ++ [field] = full at h
  cases h with
  | name => exact absurd hfull (List.concat_ne_nil _ _)
  | this => exact absurd hfull (List.concat_ne_nil _ _)
  | access _ _ hname _ =>
      obtain ⟨_, hfield⟩ := List.append_inj' hfull rfl
      obtain rfl := List.singleton_injective hfield
      exact hname

/-! ## The way up -/

/-- The names on the way up from an access start with its own. -/
theorem Chain.eq_cons {fields : List String} {last : Focus} {field : String}
    (h : Chain e above fields last) (hname : StaticName e field) :
    ∃ rest, fields = field :: rest := by
  have hkey := hname.keyName?
  cases h with
  | last hkey' =>
      rw [hkey] at hkey'
      obtain rfl := Option.some.inj (Except.ok.inj hkey')
      exact ⟨[], rfl⟩
  | on hkey' =>
      rw [hkey] at hkey'
      obtain rfl := Option.some.inj (Except.ok.inj hkey')
      exact ⟨_, rfl⟩

/-- The way up from the object of an access goes on with the access. -/
theorem Chain.of_object {fields : List String} {last : Focus} {field outer : String}
    (h : Chain object (e :: above) fields last) (hname : StaticName object field)
    (hk : e.kind = "member_expression") (ho : e.field? "object" = some object)
    (houter : StaticName e outer) : ∃ rest, fields = field :: rest ∧ Chain e above rest last := by
  have hgo : GoesOn object e := by
    refine ⟨hk, ?_⟩
    unfold Node.isField Node.alike
    rw [ho]
    simp
  cases h with
  | last _ hend =>
      -- the access has a name, so the way does not end before it
      have hkey := hend e above rfl hgo
      rw [houter.keyName?] at hkey
      cases hkey
  | on hkey _ hrest =>
      rw [hname.keyName?] at hkey
      obtain rfl := Option.some.inj (Except.ok.inj hkey)
      exact ⟨_, rfl, hrest⟩

/--
The first access on the way down from an expression with a path, what is before it and what
is after it on that way.
-/
structure FirstAccess (name : String) (f : Focus) (path : List String) (before : List Focus)
    (first : Focus) (after : List Focus) : Prop where
  /-- It is on the way down. -/
  way : objectsOf f.above f.node = before ++ first :: after
  /-- It is an access. -/
  kind : first.node.kind = "member_expression"
  /-- It has a name. -/
  named : ∃ field, StaticName first.node field
  /-- It is told to be the first one. -/
  starts : startsAt name first.node = .ok true
  /-- Nothing else on the way is. -/
  others : ∀ g ∈ before ++ after, Silent name g
  /-- The way up from it passes the expression, and has the names of the path up to there. -/
  upwards : ∀ fields last, Chain first.node first.above fields last →
    ∃ rest, fields = path.dropLast ++ rest ∧ Chain f.node f.above rest last

/-- **Of the accesses on the way down from an expression with a path, one is the first.** -/
theorem Extends.exists_firstAccess (h : Extends name e path) (hpath : path ≠ [])
    (above : List Node) :
    ∃ before first after, FirstAccess name ⟨e, above⟩ path before first after := by
  induction h generalizing above with
  | name => exact absurd rfl hpath
  | this => exact absurd rfl hpath
  | @access e object path field hk ho hname hobject ih =>
      rcases List.eq_nil_or_concat' path with rfl | ⟨path, inner, rfl⟩
      · refine ⟨[], ⟨e, above⟩, _, objectsOf_of_object hk ho, hk, ⟨field, hname⟩,
          hobject.starts ho, ?_, ?_⟩
        · exact fun g hg => hobject.silent g hg
        · exact fun fields last hchain => ⟨fields, rfl, hchain⟩
      · have hne : path ++ [inner] ≠ [] := List.concat_ne_nil _ _
        obtain ⟨before, first, after, hfirst⟩ := ih hne (e :: above)
        refine ⟨⟨e, above⟩ :: before, first, after, ?_, hfirst.kind, hfirst.named, hfirst.starts,
          ?_, ?_⟩
        · rw [objectsOf_of_object hk ho, hfirst.way]
          rfl
        · intro g hg
          rcases List.mem_cons.mp hg with rfl | hg
          · exact silent_of_later hk (hobject.later hne ho)
          · exact hfirst.others g hg
        · intro fields last hchain
          obtain ⟨rest, hfields, hrest⟩ := hfirst.upwards fields last hchain
          obtain ⟨outer, rfl, houter⟩ := hrest.of_object hobject.staticName hk ho hname
          refine ⟨outer, ?_, houter⟩
          rw [hfields, List.dropLast_concat, List.dropLast_concat, List.append_assoc]
          rfl

/-- The names on the way up from the first access start with the path. -/
theorem FirstAccess.prefix_of_chain {f first : Focus} {before after : List Focus}
    (h : FirstAccess name f path before first after) (hf : Extends name f.node path)
    (hpath : path ≠ []) {fields : List String} {last : Focus}
    (hchain : Chain first.node first.above fields last) : path <+: fields := by
  obtain ⟨rest, rfl, hrest⟩ := h.upwards fields last hchain
  obtain rfl | ⟨path, field, rfl⟩ := List.eq_nil_or_concat' path
  · exact absurd rfl hpath
  · obtain ⟨rest, rfl⟩ := hrest.eq_cons hf.staticName
    rw [List.dropLast_concat]
    exact ⟨rest, List.append_assoc _ _ _⟩

/-! ## What is recorded -/

/-- An access chain is recorded once, under a path that starts with the path to an expression. -/
structure RecordedOnce (root : Node) (name : String) (f : Focus) (path : List String)
    (before : List Focus) (first : Focus) (after : List Focus) : Prop where
  /-- One of the accesses on the way down from the expression is the first one. -/
  access : FirstAccess name f path before first after
  /-- The names that are recorded from there start with the path. -/
  outward : Gives root.Readable (fun r => path <+: r.1) (outward first.node first.above)
  /-- So the first access tells of a field at the path, and of what is below it. -/
  fragment : Gives root.Readable
    (fun s => ∃ fields e, path <+: fields ∧ s = .nest fields (.leaf e)) (fragment name first)

/-- Whoever describes an expression describes what is at its path. -/
structure Attached (name : String) (e : Node) (path : List String) : Prop where
  /-- A pattern that takes it apart tells of fields below the path. -/
  destructured {pattern : Node} {shape : Fragment} : pattern.kind = "object_pattern" →
    patternShape pattern = .ok shape →
    destructuringFragment name (some pattern) (some e) = .ok (.nest path shape)
  /-- A literal that is assigned to it does, too. -/
  assigned {literal : Node} {shape : Fragment} : literal.kind = "object" →
    literalShape literal = .ok shape →
    assignmentFragment name (some e) (some literal) = .ok (.nest path shape)

theorem Extends.attached (h : Extends name e path) : Attached name e path := by
  have hfound : path? name (some e) = .ok (some path) := chainPath?_of_accessPath h.accessPath
  constructor
  · intro pattern shape hkind hshape
    unfold destructuringFragment
    dsimp only
    rw [if_pos hkind]
    exact bind_eq_ok.mpr ⟨_, hfound, bind_eq_ok.mpr ⟨shape, hshape, rfl⟩⟩
  · intro literal shape hkind hshape
    unfold assignmentFragment
    dsimp only
    rw [if_pos hkind]
    exact bind_eq_ok.mpr ⟨_, hfound, bind_eq_ok.mpr ⟨shape, hshape, rfl⟩⟩

theorem Extends.exists_recordedOnce {root : Node} {f : Focus}
    (hf : (Focus.ofRoot root).Below f) (h : Extends name f.node path) (hpath : path ≠ []) :
    ∃ before first after, RecordedOnce root name f path before first after := by
  obtain ⟨before, first, after, hfirst⟩ := h.exists_firstAccess hpath f.above
  have hmem : first ∈ objectsOf f.above f.node := by rw [hfirst.way]; simp
  have hread : root.Readable → first.Readable := by
    intro hroot
    have hroot : (Focus.ofRoot root).Readable := by
      intro a ha
      obtain rfl := List.mem_singleton.mp ha
      exact hroot
    exact hroot.below (hf.trans (below_of_mem_objectsOf hmem))
  have hout : Gives root.Readable
      (fun r => path <+: r.1 ∧ ∃ last, r.2 = some last) (outward first.node first.above) := by
    refine (gives_outward.need hread).mono fun r hr => ?_
    rcases hr with ⟨_, hnone⟩ | ⟨last, hlast, hchain⟩
    · obtain ⟨field, hname⟩ := hfirst.named
      rw [hname.keyName?] at hnone
      cases hnone
    · exact ⟨hfirst.prefix_of_chain h hpath hchain, last, hlast⟩
  refine ⟨before, first, after, hfirst, hout.mono fun _ hr => hr.1, ?_⟩
  unfold fragment
  dsimp only
  rw [if_pos hfirst.kind, accessFragment, bind_eq_of_ok hfirst.starts, if_pos rfl]
  refine hout.bind fun r hr => ?_
  obtain ⟨fields, outermost⟩ := r
  obtain ⟨hbegins, last, hlast⟩ := hr
  dsimp only at hbegins hlast
  subst hlast
  cases fields with
  | nil => exact absurd (List.prefix_nil.mp hbegins) hpath
  | cons field fields => exact .pure ⟨_, _, hbegins, rfl⟩

/--
**The two ways along a chain of accesses agree.** In a tree whose properties are names, the path
to an expression that can be read is found, and it is the one by which the expression extends
the binding. If there are names on it, one access on the way down is the first one, and from
there everything is recorded below the path. A pattern or a literal for the expression says
what is below the path, too.
-/
theorem gives_path? {root : Node} (hroot : NamedProperties root) {f : Focus}
    (hf : (Focus.ofRoot root).Below f) (name : String) :
    Gives root.Readable
      (fun r => (∀ path, r = some path ↔ Extends name f.node path) ∧
        ∀ path, Extends name f.node path → Attached name f.node path ∧
          (path ≠ [] → ∃ before first after, RecordedOnce root name f path before first after))
      (path? name (some f.node)) := by
  have hwithin : root.Within f.node := hf.within
  have hnames : NamedProperties f.node := fun n hn => hroot n (hwithin.trans hn)
  have hread : root.Readable → f.node.Readable := fun h n hn => h n (hwithin.trans hn)
  refine ((gives_chainPath? f.node).need hread).mono fun r hr => ⟨fun path => ?_, fun path h => ?_⟩
  · rw [hr path, extends_iff_accessPath hnames]
  · exact ⟨h.attached, h.exists_recordedOnce hf⟩

/-! ### A field that is called like the binding -/

namespace Namesake

def source : String := "this.props.props;"

/-- The access of the binding as a field of `this`. -/
def binding : Node :=
  nodeOf source "member_expression" 0 10 (some "object")
    [nodeOf source "this" 0 4 (some "object"),
     nodeOf source "property_identifier" 5 10 (some "property")]

/-- The access of a field of it. -/
def access : Node :=
  nodeOf source "member_expression" 0 16 none
    [binding, nodeOf source "property_identifier" 11 16 (some "property")]

/-- The statement that the access stands in. -/
def statement : Node := nodeOf source "expression_statement" 0 17 none [access]

end Namesake

theorem gives_path?_namesake :
    NamedProperties Namesake.statement ∧ Namesake.statement.Readable ∧
      (Focus.ofRoot Namesake.statement).Below ⟨Namesake.access, [Namesake.statement]⟩ ∧
      path? "props" (some Namesake.access) = .ok (some ["props"]) ∧
      Extends "props" Namesake.access ["props"] ∧
      Attached "props" Namesake.access ["props"] ∧
      ∃ before first after, RecordedOnce Namesake.statement "props"
        ⟨Namesake.access, [Namesake.statement]⟩ ["props"] before first after := by
  have hnames : NamedProperties Namesake.statement := by decide +kernel
  have hread : Namesake.statement.Readable := by decide +kernel
  have hbelow : (Focus.ofRoot Namesake.statement).Below
      ⟨Namesake.access, [Namesake.statement]⟩ := .child .self List.mem_cons_self
  have hpath : path? "props" (some Namesake.access) = .ok (some ["props"]) := by rfl
  obtain ⟨hiff, hrecorded⟩ := (gives_path? hnames hbelow "props").sound _ hpath
  have hextends : Extends "props" Namesake.access ["props"] := (hiff _).mp rfl
  obtain ⟨hattached, hrecorded⟩ := hrecorded _ hextends
  exact ⟨hnames, hread, hbelow, hpath, hextends, hattached, hrecorded (by decide)⟩

end ScriptTypes.Usage
