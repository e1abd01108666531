import ScriptTypes.Proofs.Insertions
import ScriptTypes.Proofs.TypeName

/-!
# Names never collide

Parameters and component classes compete for the names of their interfaces throughout a
run. The names that are taken start with those that the file declares and those that are
declared everywhere, and every interface takes its own; a new name is one that is not
taken. So the interfaces of a file have distinct names, and none of them is joined with a
type that is there already.
-/

namespace ScriptTypes.Annotation

open Syntax

/-- The kinds of statements that declare a type. -/
def DeclaresType (declaration : Node) : Prop :=
  declaration.kind = "interface_declaration" ∨ declaration.kind = "type_alias_declaration" ∨
    declaration.kind = "class_declaration" ∨ declaration.kind = "abstract_class_declaration" ∨
    declaration.kind = "enum_declaration"

/-- A statement of a file declares a type of that name, by itself or by what it exports. -/
def Declares (root : Node) (name : String) : Prop :=
  ∃ statement ∈ root.children, statement.named = true ∧
    ∃ declaration, (declaration = statement ∨
        statement.kind = "export_statement" ∧ statement.field? "declaration" = some declaration) ∧
      DeclaresType declaration ∧
      ∃ identifier, declaration.field? "name" = some identifier ∧ identifier.text = .ok name

theorem typeDeclaration?_of_declaresType {statement declaration : Node}
    (hd : declaration = statement ∨
      statement.kind = "export_statement" ∧ statement.field? "declaration" = some declaration)
    (ht : DeclaresType declaration) : typeDeclaration? statement = some declaration := by
  have hkind : declaration.ofKind? typeDeclarationKinds = some declaration := by
    unfold Node.ofKind?
    rw [if_pos]
    simpa [typeDeclarationKinds, DeclaresType] using ht
  unfold typeDeclaration?
  rcases hd with rfl | ⟨he, hf⟩
  · have hne : declaration.kind ≠ "export_statement" := by
      intro he
      rw [DeclaresType, he] at ht
      simp at ht
    rw [if_neg hne]
    exact hkind
  · rw [if_pos he, hf]
    exact hkind

/-- The names that a file declares are among those that are read from it. -/
theorem mem_declaredTypes {root : Node} {names : List String} {name : String}
    (h : declaredTypes root = .ok names) (hd : Declares root name) : name ∈ names := by
  obtain ⟨statement, hs, hnamed, declaration, hdecl, ht, identifier, hid, htext⟩ := hd
  have hdecl' := typeDeclaration?_of_declaresType hdecl ht
  have hcontent : statement ∈ root.namedChildren := by
    refine List.mem_filter.mpr ⟨hs, ?_⟩
    unfold Node.isContent
    rw [hnamed, Bool.true_and, bne_iff_ne]
    intro hcomment
    -- a comment declares no type, and it is no export either
    rcases hdecl with rfl | ⟨he, -⟩
    · rw [DeclaresType, hcomment] at ht
      simp at ht
    · rw [hcomment] at he
      simp at he
  have hmem : identifier ∈ root.namedChildren.filterMap fun s =>
      (typeDeclaration? s).bind (·.field? "name") :=
    List.mem_filterMap.mpr ⟨statement, hcontent, by rw [hdecl']; exact hid⟩
  obtain ⟨name', hname', htext'⟩ := exists_of_mem_mapM h hmem
  rw [htext] at htext'
  obtain rfl := Except.ok.inj htext'
  exact hname'

/-- And no others are read from it. -/
theorem declares_of_mem {root : Node} {names : List String} {name : String}
    (h : declaredTypes root = .ok names) (hname : name ∈ names) : Declares root name := by
  obtain ⟨identifier, hid, htext⟩ := exists_of_mem_forall₂ (mapM_eq_ok.mp h) hname
  obtain ⟨statement, hs, hid⟩ := List.mem_filterMap.mp hid
  obtain ⟨declaration, hdecl, hid⟩ := Option.bind_eq_some_iff.mp hid
  obtain ⟨hs, hcontent⟩ := List.mem_filter.mp hs
  unfold typeDeclaration? at hdecl
  obtain ⟨n, hn, hkind⟩ := Option.bind_eq_some_iff.mp hdecl
  unfold Node.ofKind? at hkind
  split at hkind
  · rename_i hmem
    obtain rfl := Option.some.inj hkind
    refine ⟨statement, hs, (Bool.and_eq_true_iff.mp hcontent).1, n, ?_, ?_, identifier, hid, htext⟩
    · split at hn
      · rename_i he
        exact .inr ⟨he, hn⟩
      · exact .inl (Option.some.inj hn).symm
    · simpa [typeDeclarationKinds, DeclaresType] using hmem
  · cases hkind

namespace Draft

variable {doc : Document} {d d' : Draft} {seeds : List String}

/-- The names of the interfaces so far, given the names that were taken at the start. -/
structure WellNamed (seeds : List String) (d : Draft) : Prop where
  /-- What was taken at the start is still taken. -/
  seeded : ∀ name ∈ seeds, name ∈ d.taken
  /-- The names of the interfaces are taken. -/
  taken : ∀ name ∈ d.interfaces, name ∈ d.taken
  /-- They are distinct. -/
  nodup : d.interfaces.Nodup
  /-- None of them was taken at the start. -/
  fresh : ∀ name ∈ d.interfaces, name ∉ seeds
  /-- They are names of types. -/
  capitalized : ∀ name ∈ d.interfaces, TypeName.Capitalized name

theorem wellNamed_start (names : List String) :
    WellNamed (names ++ TypeName.globals) (start names) where
  seeded := fun _ hn => hn
  taken := by intro name hn; cases hn
  nodup := List.nodup_nil
  fresh := by intro name hn; cases hn
  capitalized := by intro name hn; cases hn

/-- What leaves the names alone keeps them well. -/
theorem WellNamed.congr (h : WellNamed seeds d) (ht : d'.taken = d.taken)
    (hi : d'.interfaces = d.interfaces) : WellNamed seeds d' where
  seeded := by rw [ht]; exact h.seeded
  taken := by rw [ht, hi]; exact h.taken
  nodup := by rw [hi]; exact h.nodup
  fresh := by rw [hi]; exact h.fresh
  capitalized := by rw [hi]; exact h.capitalized

/-- An insertion that is no interface names none. -/
theorem WellNamed.adding (h : WellNamed seeds d) {i : Insertion} (hi : i.interfaceName? = none) :
    WellNamed seeds (d.adding i) :=
  h.congr rfl (by rw [interfaces_adding, hi]; exact List.append_nil _)

theorem WellNamed.remembering (h : WellNamed seeds d) {range : Span} {name : String} :
    WellNamed seeds (d.remembering range name) := h.congr rfl rfl

/-- An interface whose name is free keeps the names well. -/
theorem WellNamed.describing (h : WellNamed seeds d) {base : String}
    {members : List (String × Shape InferredType)} (hb : TypeName.Capitalized base) :
    WellNamed seeds (d.describing (TypeName.free base d.taken) members) := by
  have hfree := TypeName.free_not_mem base d.taken
  have hmem : ∀ {name : String},
      name ∈ (d.describing (TypeName.free base d.taken) members).interfaces →
        name ∈ d.interfaces ∨ name = TypeName.free base d.taken := by
    intro name hn
    rw [interfaces_describing] at hn
    exact (List.mem_append.mp hn).imp_right List.mem_singleton.mp
  constructor
  case seeded => exact fun name hn => List.mem_cons_of_mem _ (h.seeded name hn)
  case taken =>
    intro name hn
    rcases hmem hn with hn | rfl
    · exact List.mem_cons_of_mem _ (h.taken name hn)
    · exact List.mem_cons_self
  case nodup =>
    rw [interfaces_describing, List.nodup_append]
    refine ⟨h.nodup, List.nodup_singleton _, ?_⟩
    intro name hn name' hn' heq
    obtain rfl := List.mem_singleton.mp hn'
    exact hfree (heq ▸ h.taken name hn)
  case fresh =>
    intro name hn hseed
    rcases hmem hn with hn | rfl
    · exact h.fresh name hn hseed
    · exact hfree (h.seeded _ hseed)
  case capitalized =>
    intro name hn
    rcases hmem hn with hn | rfl
    · exact h.capitalized name hn
    · exact hb.free d.taken

theorem WellNamed.judged (h : WellNamed seeds d) {pattern : Node} {evidence : Evidence}
    (hj : Judged doc d pattern evidence d') : WellNamed seeds d' := by
  cases hj with
  | annotated | unresolved | ignored => exact h
  | reported => exact h.congr rfl rfl
  | typed => exact h.adding rfl

theorem WellNamed.scoped (h : WellNamed seeds d) {list : Focus} {pattern : Node}
    {interface : Option String} (hs : Scoped doc d list pattern interface d') :
    WellNamed seeds d' := by
  cases hs with
  | none => exact h
  | scope _ _ _ hi =>
      cases hi with
      | constructed | unused => exact h
      | described => exact h.describing (TypeName.capitalized_pascalCase _)

/-- **Every decision keeps the names well.** -/
theorem wellNamed_step {site : Site} (h : WellNamed seeds d) (hd : Decided doc d d' site) :
    WellNamed seeds d' := by
  have hprops : TypeName.Capitalized "Props" := by decide
  have hstate : TypeName.Capitalized "State" := by decide
  cases hd with
  | parameter hp =>
      cases hp with
      | unnamed | annotated => exact h
      | judged _ _ hs hj => exact (h.scoped hs).judged hj
  | declarator hdec =>
      cases hdec with
      | looped | unnamed | closed => exact h
      | judged _ _ _ _ hj => exact h.judged hj
  | catchClause hc =>
      cases hc with
      | unnamed => exact h
      | judged _ hj => exact h.judged hj
  | classDefinition hc =>
      cases hc with
      | left => exact h
      | unknown => exact h.adding rfl
      | props _ _ _ hname =>
          subst hname
          exact ((h.describing hprops).remembering).adding rfl
      | state _ _ _ hpn _ hsn =>
          subst hpn hsn
          exact ((h.describing hprops).describing hstate).remembering.adding rfl

/-- **The names are well at the end of a run.** -/
theorem wellNamed_decideAll {names : List String} {sites : List Site} :
    WellNamed (names ++ TypeName.globals) (decideAll doc (start names) sites).1 :=
  decideAll_preserves (fun _ _ _ _ h hd => wellNamed_step h hd) (wellNamed_start names)

end Draft

/-- The interfaces of an annotated document are named well. -/
theorem wellNamed_of_document {doc : Document} {a : Annotated} (h : doc.annotate.result = .ok a) :
    a.interfaces.Nodup ∧ ∀ name ∈ a.interfaces, name ∉ TypeName.globals ∧
      ¬ Declares doc.root name ∧ TypeName.Capitalized name := by
  obtain ⟨names, d, hnames, hrun, _, hi, _⟩ := annotate_document_eq_ok.mp h
  have hwell : (Draft.decideAll doc (Draft.start names) (Site.all doc.root)).1.WellNamed
      (names ++ TypeName.globals) := Draft.wellNamed_decideAll
  rw [hrun] at hwell
  have hinterfaces : a.interfaces = d.interfaces := by
    unfold Annotated.interfaces Draft.interfaces
    rw [hi]
  rw [hinterfaces]
  refine ⟨hwell.nodup, fun name hn => ⟨?_, ?_, hwell.capitalized name hn⟩⟩
  · exact fun hg => hwell.fresh name hn (List.mem_append_right _ hg)
  · intro hdecl
    exact hwell.fresh name hn (List.mem_append_left _ (mem_declaredTypes hnames hdecl))

/--
**Names never collide.** The interfaces that annotating a source adds have distinct names,
none of which is declared everywhere or by a statement of the file, and all of which start
with an upper-case letter and go on with letters and digits.
-/
theorem interfaces_never_collide {parse : Parser} {source language : String} {allowErrors : Bool}
    {a : Annotated} (h : (annotate parse source language allowErrors).result = .ok a) :
    ∃ dialect, Dialect.ofName language = .ok dialect ∧ a.interfaces.Nodup ∧
      ∀ name ∈ a.interfaces, name ∉ TypeName.globals ∧
        ¬ Declares (parse dialect source).root name ∧ TypeName.Capitalized name := by
  obtain ⟨dialect, hdialect, _, hdoc⟩ := annotate_eq_ok.mp h
  exact ⟨dialect, hdialect, wellNamed_of_document hdoc⟩

theorem interfaces_never_collide_sample :
    (annotate Sample.parse Sample.source "tsx" false).result = .ok Sample.annotated ∧
      Sample.annotated.interfaces = ["Props", "P"] ∧ Sample.annotated.interfaces.Nodup := by
  obtain ⟨_, _, hnodup, _⟩ := interfaces_never_collide Sample.annotate_eq
  have hnames : Sample.annotated.interfaces = ["Props", "P"] := by decide +kernel
  exact ⟨Sample.annotate_eq, hnames, hnodup⟩

end ScriptTypes.Annotation
