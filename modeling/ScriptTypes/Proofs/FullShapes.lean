import ScriptTypes.Proofs.ConstructorProps
import ScriptTypes.Proofs.Fragments
import ScriptTypes.Proofs.Samples
import ScriptTypes.Proofs.SameFields

/-!
# Objects have fields

Many things in a source could tell of an object without a field: an empty pattern, an empty
literal, or one that holds nothing but methods and spreads. All of them are taken to tell
nothing. So the scan of a scope starts with nothing known, and what one more node contributes
leaves it there or makes a full object of it, one that has a field and in which every object has
one; that is the invariant of the scan.

Sorting and typing a shape keep its fields, so an interface that is written for what a scope tells
has a member, and nothing is between two braces in it that is empty.
-/

namespace ScriptTypes

open Syntax

namespace Shape

variable {α : Type} {s : Shape α}

/-- An object that has a field, and in which all objects have fields with names of their own. -/
structure Full (s : Shape α) : Prop where
  /-- It is an object. -/
  isBranch : ∃ fs, s = .branch fs
  /-- Each object in it has a field, and no two of them share a name. -/
  proper : s.Proper

/-- A proper shape is a full object if anything is known of it, and it is no single expression. -/
theorem unknown_or_full (hp : s.Proper) (ho : s.IsObject) : s = .unknown ∨ s.Full := by
  rcases s with (_ | e) | fs
  · exact .inl rfl
  · exact absurd rfl (ho e)
  · exact .inr ⟨⟨fs, rfl⟩, hp⟩

/-- Every object of a full one has a field, and no two of them share a name. -/
theorem Full.at? {p : List String} {fs : List (String × Shape α)} (h : s.Full)
    (hfs : s.at? p = some (.branch fs)) : fs ≠ [] ∧ (fs.map (·.1)).Nodup := by
  cases h.proper.at? hfs with
  | branch hne hnodup _ => exact ⟨hne, hnodup⟩

/-! ## Members -/

/-- Sorting a proper shape and typing it leaves it proper. -/
theorem Proper.sorted_typed {s : Shape Node} (h : s.Proper) {t : Shape InferredType}
    (ht : s.sorted.typed = .ok t) : t.Proper := by
  induction h generalizing t with
  | leaf =>
      obtain ⟨told, _, ht⟩ := bind_eq_ok.mp ht
      obtain rfl := pure_eq_ok.mp ht
      exact .leaf
  | @branch fs hne hnodup _ ih =>
      obtain ⟨ts, hts, ht⟩ := bind_eq_ok.mp ht
      obtain rfl := pure_eq_ok.mp ht
      have hnames : (ts.map (·.1)).Perm (fs.map (·.1)) :=
        (map_fst_typedFields hts) ▸ map_fst_sorted fs
      refine .branch ?_ (hnames.nodup_iff.mpr hnodup) fun u hu => ?_
      · rintro rfl
        exact hne (List.map_eq_nil_iff.mp hnames.nil_eq.symm)
      · obtain ⟨f, hf, _, htyped⟩ := mem_typedFields_sorted hts hu
        exact ih f hf htyped

/-- The members that are written for a full object are those of one. -/
theorem Full.members {s : Shape Node} (h : s.Full) {members : List (String × Shape InferredType)}
    (hm : s.members = .ok members) : (branch members).Full := by
  obtain ⟨⟨fs, rfl⟩, hp⟩ := h
  exact ⟨⟨members, rfl⟩, hp.sorted_typed (bind_eq_ok.mpr ⟨members, hm, rfl⟩)⟩

/-! ## Texts -/

section Texts

variable {fs gs : List (String × Shape InferredType)} {depth : Int}

theorem memberText_ne {name : String} {s : Shape InferredType} (hdepth : depth ≠ 0) :
    memberText depth name s ≠ "" := by
  intro h
  have hlength := congrArg (fun text => text.toList.length) h
  cases s with
  | leaf t => simp [memberText] at hlength
  | branch fs => simp [memberText, hdepth] at hlength

/-- The text of members is empty only if there are none. -/
theorem membersText_ne (hdepth : depth ≠ 0) (hfs : fs ≠ []) : membersText depth fs ≠ "" := by
  cases fs with
  | nil => exact absurd rfl hfs
  | cons f fs =>
      obtain ⟨name, s⟩ := f
      rw [membersText]
      intro h
      exact memberText_ne hdepth (String.append_eq_empty_iff.mp h).1

theorem membersText_append : membersText depth (fs ++ gs) =
    membersText depth fs ++ membersText depth gs := by
  induction fs with
  | nil => simp [membersText]
  | cons f fs ih =>
      obtain ⟨name, s⟩ := f
      rw [List.cons_append, membersText, ih, membersText, String.append_assoc]

/-- The members of an object have the text of each of them inside of theirs. -/
theorem exists_membersText_eq (depth : Int) {name : String} {s : Shape InferredType}
    (h : fs.lookup name = some s) : ∃ front back : String,
      membersText depth fs = front ++ memberText depth name s ++ back := by
  obtain ⟨front, back, rfl⟩ := List.append_of_mem (Named.mem_of_lookup h)
  refine ⟨membersText depth front, membersText depth back, ?_⟩
  rw [membersText_append, membersText, String.append_assoc]

/-- An object at a path of a member is written between two braces. -/
theorem exists_memberText_eq {p : List String} {s : Shape InferredType} (name : String)
    (hdepth : 0 < depth) (h : s.at? p = some (.branch gs)) : ∃ front back : String,
      memberText depth name s = front ++ "\x7b\n" ++ membersText (depth + 1 + p.length) gs ++
        indentation (depth + p.length) ++ "\x7d" ++ back := by
  induction p generalizing s depth name with
  | nil =>
      obtain rfl := Option.some.inj h
      refine ⟨indentation depth ++ name ++ ": ", ",\n", ?_⟩
      rw [memberText, if_neg (by omega), List.length_nil]
      simp [String.append_assoc]
  | cons child p ih =>
      rw [at?_cons] at h
      obtain ⟨c, hc, hbelow⟩ := Option.bind_eq_some_iff.mp h
      cases s with
      | leaf t => cases hc
      | branch fs =>
          replace hc : fs.lookup child = some c := hc
          have hdeeper : 0 < depth + 1 := by omega
          obtain ⟨front, back, hmember⟩ := ih child hdeeper hbelow
          obtain ⟨front', back', hmembers⟩ := exists_membersText_eq (depth + 1) hc
          have hlength : ((child :: p).length : Int) = 1 + p.length := by
            rw [List.length_cons]
            omega
          refine ⟨indentation depth ++ name ++ ": \x7b\n" ++ front' ++ front,
            back ++ back' ++ indentation depth ++ "\x7d,\n", ?_⟩
          rw [memberText, if_neg (by omega), hmembers, hmember, hlength, ← Int.add_assoc,
            ← Int.add_assoc]
          simp only [String.append_assoc]

/-- **An object at a path is written between two braces**, as deep as the path is long. -/
theorem exists_interfaceWith_eq {p : List String} (name : String)
    (h : (branch fs).at? p = some (.branch gs)) : ∃ front back : String,
      interfaceWith name fs = front ++ "\x7b\n" ++ membersText (p.length + 1) gs ++
        indentation p.length ++ "\x7d" ++ back := by
  cases p with
  | nil =>
      obtain rfl := Shape.branch.inj (Option.some.inj h)
      refine ⟨"interface " ++ name ++ " ", "\n\n", ?_⟩
      simp [interfaceWith, indentation, String.append_assoc]
  | cons child p =>
      rw [at?_cons] at h
      obtain ⟨c, hc, hbelow⟩ := Option.bind_eq_some_iff.mp h
      replace hc : fs.lookup child = some c := hc
      obtain ⟨front, back, hmember⟩ := exists_memberText_eq child Int.one_pos hbelow
      obtain ⟨front', back', hmembers⟩ := exists_membersText_eq 1 hc
      have hlength : ((child :: p).length : Int) = 1 + p.length := by
        rw [List.length_cons]
        omega
      refine ⟨"interface " ++ name ++ " \x7b\n" ++ front' ++ front,
        back ++ back' ++ "\x7d\n\n", ?_⟩
      rw [interfaceWith, hmembers, hmember, hlength, Int.add_right_comm 1 (p.length : Int)]
      simp only [String.append_assoc]

/-- In an interface of full objects no two braces have nothing between them. -/
theorem Full.exists_block {p : List String} (h : (branch fs).Full) (name : String)
    (hgs : (branch fs).at? p = some (.branch gs)) :
    gs ≠ [] ∧ (gs.map (·.1)).Nodup ∧ membersText (p.length + 1) gs ≠ "" ∧
      ∃ front back : String, interfaceWith name fs =
        front ++ "\x7b\n" ++ membersText (p.length + 1) gs ++ indentation p.length ++ "\x7d" ++
          back := by
  obtain ⟨hne, hnodup⟩ := h.at? hgs
  exact ⟨hne, hnodup, membersText_ne (by omega) hne, exists_interfaceWith_eq name hgs⟩

end Texts

end Shape

/-! ## The scan of a scope -/

namespace Usage

variable {able : Prop} {known : Fragment}

/-- What is known after some places, on top of what was known before. -/
def scan (name : String) (known : Fragment) : List Focus → Except Fault Fragment
  | [] => return known
  | f :: places => do scan name (known.merge (← fragment name f)) places

theorem scan_eq (name : String) (known : Fragment) (places : List Focus) :
    scan name known places = do
      return (← places.mapM (fragment name)).foldl Shape.merge known := by
  induction places generalizing known with
  | nil => rfl
  | cons f places ih =>
      rw [scan, List.mapM_cons]
      simp only [ih, bind_assoc, pure_bind, List.foldl_cons]

/-- What a scope tells is what is known after all its places, if anything is. -/
theorem gather_eq_scan (scope : Focus) (name : String) :
    gather scope name = do
      let known ← scan name .unknown scope.descendants
      return if known.isUnknown then none else some known := by
  unfold gather fragments
  rw [scan_eq, bind_assoc]
  rfl

/-- **A step of the scan keeps what is known sound.** -/
theorem gives_scan_step {name : String} {f : Focus} (hknown : Sound known)
    (hread : able → f.Readable) :
    Gives able (fun s => Sound (known.merge s)) (fragment name f) :=
  ((gives_fragment name f).need hread).mono fun _ hs =>
    ⟨hknown.proper.merge hs.sound.proper, hknown.object.merge hs.sound.object⟩

/-- So does a scan of some places, however many there are. -/
theorem gives_scan {name : String} {places : List Focus} (hknown : Sound known)
    (hread : able → ∀ f ∈ places, f.Readable) : Gives able Sound (scan name known places) := by
  induction places generalizing known with
  | nil => exact .pure hknown
  | cons f places ih =>
      refine (gives_scan_step hknown fun h => hread h f List.mem_cons_self).bind fun s hs => ?_
      exact ih hs fun h g hg => hread h g (List.mem_cons_of_mem _ hg)

/-- At every step of the scan of a scope nothing is known, or a full object is. -/
theorem gives_full_scan {scope : Focus} {name : String} {seen rest : List Focus}
    (h : scope.descendants = seen ++ rest) :
    Gives scope.Readable (fun known => known = .unknown ∨ known.Full)
      (scan name .unknown seen) := by
  have hread : scope.Readable → ∀ f ∈ seen, f.Readable := by
    intro hscope f hf
    refine hscope.below (Focus.mem_descendants_iff.mp ?_)
    rw [h]
    exact List.mem_append_left _ hf
  exact (gives_scan sound_unknown hread).mono fun _ hs => Shape.unknown_or_full hs.proper hs.object

/-- **A scope tells a full object, or nothing.** -/
theorem gives_full (scope : Focus) (name : String) :
    Gives scope.Readable (fun told => ∀ s, told = some s → s.Full) (gather scope name) := by
  rw [gather_eq_scan]
  refine (gives_full_scan (List.append_nil _).symm).bind fun known hknown => .pure fun s hs => ?_
  rcases hknown with rfl | hfull
  · cases hs
  · split at hs
    · cases hs
    · exact Option.some.inj hs ▸ hfull

end Usage

/-! ## The interfaces of a run -/

namespace Annotation

variable {doc : Document} {members : List (String × Shape InferredType)}

/-- Some scope tells of an object with these members. -/
def Told (members : List (String × Shape InferredType)) : Prop :=
  ∃ scope name shape, Usage.gather scope name = .ok (some shape) ∧ shape.members = .ok members

theorem Told.full (h : Told members) : (Shape.branch members).Full := by
  obtain ⟨scope, name, shape, hgather, hmembers⟩ := h
  exact ((Usage.gives_full scope name).sound _ hgather shape rfl).members hmembers

/-- What may be missing in a draft has such members, or there are none. -/
theorem told_or_nil {scope : Focus} {name : String} {told : Option (Shape Node)}
    (h : Usage.gather scope name = .ok told) (hm : (told.getD .unknown).members = .ok members) :
    Told members ∨ members = [] := by
  cases told with
  | none => exact .inr (pure_eq_ok.mp hm).symm
  | some shape => exact .inl ⟨scope, name, shape, h, hm⟩

namespace Draft

variable {d d₁ d' : Draft} {P : List (String × Shape InferredType) → Prop}

/-- The interfaces that are added to a draft have members of one kind only. -/
def AddsOnly (P : List (String × Shape InferredType) → Prop) (d d' : Draft) : Prop :=
  ∃ new, d'.insertions = d.insertions ++ new ∧ ∀ name members, .interface name members ∈ new →
    P members

theorem AddsOnly.refl : AddsOnly P d d := ⟨[], (List.append_nil _).symm, nofun⟩

/-- One more insertion counts only if it is an interface. -/
theorem AddsOnly.adding {i : Insertion} (h : AddsOnly P d d')
    (hi : ∀ name members, i = .interface name members → P members) :
    AddsOnly P d (d'.adding i) := by
  obtain ⟨new, hnew, hall⟩ := h
  refine ⟨new ++ [i], by rw [adding_insertions, hnew, List.append_assoc], fun name members h => ?_⟩
  rcases List.mem_append.mp h with h | h
  · exact hall name members h
  · exact hi name members (List.mem_singleton.mp h).symm

theorem AddsOnly.describing {name : String} (h : AddsOnly P d d') (hm : P members) :
    AddsOnly P d (d'.describing name members) := by
  have htaken : AddsOnly P d { d' with taken := name :: d'.taken } := h
  exact htaken.adding fun _ _ heq => (Insertion.interface.inj heq).2 ▸ hm

theorem AddsOnly.remembering {range : Span} {name : String} (h : AddsOnly P d d') :
    AddsOnly P d (d'.remembering range name) := h

theorem AddsOnly.judged {pattern : Node} {evidence : Evidence} (h : AddsOnly P d d₁)
    (hj : Judged doc d₁ pattern evidence d') : AddsOnly P d d' := by
  cases hj with
  | annotated | unresolved | ignored | reported => exact h
  | typed => exact h.adding nofun

/-- The interface of a parameter is that of an object that a scope tells of. -/
theorem ParameterDecided.addsOnly {list : Focus} {parameter : Node}
    (hp : ParameterDecided doc d list parameter d') : AddsOnly Told d d' := by
  cases hp with
  | unnamed | annotated => exact .refl
  | judged _ _ hs hj =>
      refine .judged ?_ hj
      cases hs with
      | none => exact .refl
      | scope _ _ _ hi =>
          cases hi with
          | constructed | unused => exact .refl
          | described _ hgather hmembers => exact .describing .refl ⟨_, _, _, hgather, hmembers⟩

/-- The interfaces of a component are such, or that of its props has no members. -/
theorem ClassDecided.addsOnly {declaration : Focus} (hc : ClassDecided doc d declaration d') :
    AddsOnly (fun members => Told members ∨ members = []) d d' := by
  cases hc with
  | left => exact .refl
  | unknown => exact .adding .refl nofun
  | props _ hprops _ _ hmembers =>
      exact .adding (.remembering (.describing .refl (told_or_nil hprops hmembers))) nofun
  | state _ hprops hstate _ hpm _ hsm =>
      refine .adding (.remembering (.describing (.describing .refl ?_) ?_)) nofun
      · exact told_or_nil hprops hpm
      · exact told_or_nil hstate hsm

/-- What is added at a place are interfaces of objects that a scope tells of. Only a component
can have one without members. -/
theorem Decided.addsOnly {site : Site} (hd : Decided doc d d' site) :
    AddsOnly (fun members => Told members ∨
      members = [] ∧ ∃ declaration, site = .classDefinition declaration) d d' := by
  cases hd with
  | parameter hp =>
      obtain ⟨new, hnew, hall⟩ := hp.addsOnly
      exact ⟨new, hnew, fun name members h => .inl (hall name members h)⟩
  | declarator hdec =>
      cases hdec with
      | looped | unnamed | closed => exact .refl
      | judged _ _ _ _ hj => exact .judged .refl hj
  | catchClause hc =>
      cases hc with
      | unnamed => exact .refl
      | judged _ hj => exact .judged .refl hj
  | classDefinition hc =>
      obtain ⟨new, hnew, hall⟩ := hc.addsOnly
      exact ⟨new, hnew, fun name members h => (hall name members h).imp_right fun h => ⟨h, _, rfl⟩⟩

end Draft

/-- The interfaces that a run adds are those of full objects, but that of a component's props can
be without members. -/
theorem full_or_nil_of_mem_trace {site : Site} {new : List Insertion} {name : String}
    (h : (site, new) ∈ doc.trace) (hmem : .interface name members ∈ new) :
    (Shape.branch members).Full ∨
      members = [] ∧ ∃ declaration, site = .classDefinition declaration := by
  unfold Document.trace at h
  split at h
  · obtain ⟨_, _, e, e', _, _, hdecide, rfl⟩ := Draft.exists_of_mem_trace h
    obtain ⟨new, hnew, hall⟩ := (Draft.decided_of_ok hdecide).addsOnly
    rw [Draft.since_eq hnew] at hmem
    exact (hall name members hmem).imp_left Told.full
  · cases h

/--
**No object is without a field.** The scan of a scope starts with nothing known, and after any
number of its places nothing is known or a full object is: it has a field, and so has every
object in it, with names that no two of them share. What the scope tells is what is known after
all places, if anything is, so it is no single leaf. The interface of a parameter has a member
therefore; only that of a component's props can be without. Whatever interface has a member,
there is a text between each two braces of it.
-/
theorem objects_have_fields :
    (∀ (scope : Focus) (name : String) (seen rest : List Focus),
      scope.descendants = seen ++ rest →
      Gives scope.Readable (fun known => known = .unknown ∨ known.Full)
        (Usage.scan name .unknown seen)) ∧
    (∀ (scope : Focus) (name : String),
      (Usage.gather scope name = do
        let known ← Usage.scan name .unknown scope.descendants
        return if known.isUnknown then none else some known) ∧
      Gives scope.Readable (fun told => ∀ s, told = some s → s.Full) (Usage.gather scope name)) ∧
    ∀ (doc : Document) (site : Site) (new : List Insertion) (name : String)
      (members : List (String × Shape InferredType)),
      (site, new) ∈ doc.trace → .interface name members ∈ new →
      (members = [] → ∃ declaration, site = .classDefinition declaration) ∧
      (members ≠ [] → ∀ p fs, (Shape.branch members).at? p = some (.branch fs) →
        fs ≠ [] ∧ (fs.map (·.1)).Nodup ∧ Shape.membersText (p.length + 1) fs ≠ "" ∧
        ∃ front back : String, Shape.interfaceWith name members =
          front ++ "\x7b\n" ++ Shape.membersText (p.length + 1) fs ++
            Shape.indentation p.length ++ "\x7d" ++ back) := by
  refine ⟨fun _ _ _ _ => Usage.gives_full_scan,
    fun scope name => ⟨Usage.gather_eq_scan scope name, Usage.gives_full scope name⟩,
    fun doc site new name members hnew hmem => ⟨fun hnil => ?_, fun hne p fs hfs => ?_⟩⟩
  · rcases full_or_nil_of_mem_trace hnew hmem with hfull | ⟨_, hclass⟩
    · exact absurd hnil (hfull.at? Shape.at?_nil).1
    · exact hclass
  · rcases full_or_nil_of_mem_trace hnew hmem with hfull | ⟨hnil, _⟩
    · exact hfull.exists_block name hfs
    · exact absurd hnil hne

/-! ## A pattern and a literal without fields -/

namespace Hollow

/-- A field of a parameter is taken apart into nothing, and then is an object with a method only. -/
def source : String := "function f(p) \x7b const \x7b\x7d = p.a; p.a = \x7b m() \x7b\x7d \x7d \x7d"

/-- The access of the field. -/
def access (start : Nat) (field : String) : Node :=
  accessOf source start (start + 1) (start + 3) (some field)

/-- The statements that take the field apart and assign it. -/
def statements : List Node :=
  [nodeOf source "variable_declarator" 22 30 none
    [nodeOf source "object_pattern" 22 24 (some "name"), access 27 "value"],
   nodeOf source "assignment_expression" 32 48 none
    [access 32 "left",
     nodeOf source "object" 38 48 (some "right") [nodeOf source "method_definition" 40 46 none]]]

def document : Document where
  source := source
  root := nodeOf source "program" 0 50 none
    [nodeOf source "function_declaration" 0 50 none
      [nodeOf source "formal_parameters" 10 13 (some "parameters") [parameterOf source 11 12],
       nodeOf source "statement_block" 14 50 (some "body") statements]]

/-- Whether a parameter is given an interface with these members. -/
def isGiven (names : List String) (e : Site × List Insertion) : Bool :=
  match e.1 with
  | .parameter .. => e.2.any fun
    | .interface _ members => members.map (·.1) == names
    | _ => false
  | _ => false

theorem exists_given {names : List String} (h : (document.trace.any (isGiven names)) = true) :
    ∃ list parameter new name members, (.parameter list parameter, new) ∈ document.trace ∧
      .interface name members ∈ new ∧ members.map (·.1) = names := by
  obtain ⟨⟨site, new⟩, he, hgiven⟩ := List.any_eq_true.mp h
  cases site with
  | parameter list parameter =>
      obtain ⟨i, hi, hgiven⟩ := List.any_eq_true.mp hgiven
      cases i with
      | interface name members =>
          exact ⟨list, parameter, new, name, members, he, hi, eq_of_beq hgiven⟩
      | bindingType | typeArguments => cases hgiven
  | declarator | catchClause | classDefinition => cases hgiven

end Hollow

/-- The interface of a parameter that is used in no other way has a member for the field. -/
theorem objects_have_fields_hollow :
    ∃ list parameter new name members,
      (.parameter list parameter, new) ∈ Hollow.document.trace ∧
      .interface name members ∈ new ∧ members.map (·.1) = ["a"] ∧
      Shape.membersText 1 members ≠ "" := by
  have hgiven : (Hollow.document.trace.any (Hollow.isGiven ["a"])) = true := by decide +kernel
  obtain ⟨list, parameter, new, name, members, hnew, hmem, hnames⟩ := Hollow.exists_given hgiven
  have hne : members ≠ [] := by
    rintro rfl
    cases hnames
  have hblock := (objects_have_fields.2.2 _ _ _ _ _ hnew hmem).2 hne [] members rfl
  exact ⟨list, parameter, new, name, members, hnew, hmem, hnames, hblock.2.2.1⟩

end Annotation

end ScriptTypes
