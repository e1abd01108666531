import ScriptTypes.Proofs.InterfaceBlock

/-!
# Interfaces and imports

The names that an interface keeps clear of are those of the types that are declared everywhere
and of those that the file declares itself. An import declares no type and takes no name, so an
interface can be called like something that is imported. It is if the file calls for an
interface of that name, or for one of a name that was taken and is told apart by a number.
-/

namespace ScriptTypes.Annotation

open Syntax

/-! ## The names that a file imports -/

/-- What an import specifier binds: the alias, or else the name. -/
def boundBySpecifier? (specifier : Node) : Option Node :=
  specifier.field? "alias" <|> specifier.field? "name"

/-- What a part of an import clause binds: the default, the whole module, or some of its names. -/
def boundByPart (part : Node) : List Node :=
  if part.kind = "identifier" then [part]
  else if part.kind = "namespace_import" then part.children.filter (·.kind = "identifier")
  else if part.kind = "named_imports" then
    (part.children.filter (·.kind = "import_specifier")).filterMap boundBySpecifier?
  else []

/-- What the import statements of a file bind. -/
def importBindings (root : Node) : List Node :=
  (root.children.filter (·.kind = "import_statement")).flatMap fun statement =>
    (statement.children.filter (·.kind = "import_clause")).flatMap fun clause =>
      clause.children.flatMap boundByPart

/-- A file imports something that it calls by the name. -/
def Imports (root : Node) (name : String) : Prop :=
  ∃ binding ∈ importBindings root, binding.text = .ok name

/-! ## The names that a file calls for -/

/-- A place of the tree calls for an interface that is named after the base. -/
def CallsFor (root : Node) (base : String) : Prop :=
  ∃ site ∈ Site.all root, ∃ wanted, Calls root site wanted ∧ ∃ w ∈ wanted, w.base = base

section

variable {taken : List String} {wanted : List Wanted} {interfaces : List (String × String)}
  {root : Node}

/-- A name that is claimed is the base of something wanted, perhaps with a number. -/
theorem Claims.exists_candidate (h : Claims taken wanted interfaces) {name : String}
    (hname : name ∈ interfaces.map (·.1)) :
    ∃ w ∈ wanted, ∃ i, name = TypeName.candidate w.base i := by
  induction h with
  | nil => cases hname
  | @cons _ w _ _ _ _ hfree _ _ ih =>
      rcases List.mem_cons.mp hname with rfl | hname
      · obtain ⟨i, hi⟩ := (TypeName.free_spec w.base _).1
        exact ⟨w, List.mem_cons_self, i, hfree.trans hi⟩
      · obtain ⟨w', hw', i, hi⟩ := ih hname
        exact ⟨w', List.mem_cons_of_mem _ hw', i, hi⟩

/-- A base that is not taken at the start is claimed, by the first that it is wanted for or by
one with a number before. -/
theorem Claims.base_mem (h : Claims taken wanted interfaces) {w : Wanted} (hw : w ∈ wanted)
    (hfree : w.base ∉ taken) : w.base ∈ interfaces.map (·.1) := by
  induction h with
  | nil => cases hw
  | @cons taken first name _ others _ hname _ _ ih =>
      rw [List.map_cons, List.mem_cons]
      by_cases heq : w.base = name
      · exact .inl heq
      · -- the first one was given another name, so the base is still free afterwards
        refine .inr (ih ?_ fun hmem => (List.mem_cons.mp hmem).elim heq hfree)
        refine (List.mem_cons.mp hw).resolve_left ?_
        rintro rfl
        exact heq ((TypeName.free_eq_base hfree).symm.trans hname.symm)

/-- What a place calls for is told when all places are asked in their turn. -/
theorem exists_calls_of_mem {all : List (List Wanted)}
    (hall : List.Forall₂ (Calls root) (Site.all root) all) {site : Site}
    (hsite : site ∈ Site.all root) :
    ∃ wanted, Calls root site wanted ∧ ∀ w ∈ wanted, w ∈ all.flatten := by
  obtain ⟨wanted, hwanted, hcalls⟩ := exists_of_mem_forall₂ hall.flip hsite
  exact ⟨wanted, hcalls, fun w hw => List.mem_flatten.mpr ⟨wanted, hwanted, hw⟩⟩

/-- A component that is described calls for the interface of its props. -/
theorem DescribedComponent.props_mem {all : List (List Wanted)}
    (hall : List.Forall₂ (Calls root) (Site.all root) all) {declaration : Focus}
    (h : DescribedComponent root declaration) : ∃ w ∈ all.flatten, w.base = "Props" := by
  have hsite : Site.classDefinition declaration ∈ Site.all root :=
    Site.mem_all_of_opened h.below (.classDefinition h.kind)
  obtain ⟨props, state, huses, hsome⟩ := h.used
  obtain ⟨wanted, hcalls, hmem⟩ := exists_calls_of_mem hall hsite
  cases hcalls with
  | props => exact ⟨_, hmem _ List.mem_cons_self, rfl⟩
  | state => exact ⟨_, hmem _ List.mem_cons_self, rfl⟩
  | neither hnone =>
      obtain ⟨rfl, rfl⟩ := hnone _ _ huses
      simp at hsome

/--
Whatever a place is found to call for, the bases are the same. Only a constructor can be told to
call for an interface or for none, and if for none then its component has one.
-/
theorem Calls.base_mem {site : Site} {wanted wanted' : List Wanted}
    (h : Calls root site wanted) (h' : Calls root site wanted') {w : Wanted} (hw : w ∈ wanted) :
    (∃ w' ∈ wanted', w'.base = w.base) ∨
      w.base = "Props" ∧ ∃ declaration, DescribedComponent root declaration := by
  cases h with
  | @parameter list parameter name shape hused =>
      obtain rfl := List.mem_singleton.mp hw
      have ⟨pattern, _, hpat, _, _, htext, _⟩ := hused
      cases h' with
      | @parameter _ _ name' _ hused' =>
          obtain ⟨pattern', _, hpat', _, _, htext', _⟩ := hused'
          obtain rfl := Option.some.inj (hpat.symm.trans hpat')
          obtain rfl := Except.ok.inj (htext.symm.trans htext')
          exact .inl ⟨_, List.mem_cons_self, rfl⟩
      | constructed hpat' htext' _ _ hdescribed _ =>
          -- it takes the interface of the component, whose base is the same
          obtain rfl := Option.some.inj (hpat.symm.trans hpat')
          obtain rfl : name = "props" := Except.ok.inj (htext.symm.trans htext')
          have hpascal : TypeName.pascalCase "props" = "Props" := by decide
          exact .inr ⟨hpascal, _, hdescribed⟩
      | unused hnone => exact absurd hused (hnone _ _)
  | constructed | unused | declarator | catchClause | neither => cases hw
  | props huses =>
      cases h' with
      | props huses' =>
          obtain rfl := List.mem_singleton.mp hw
          exact .inl ⟨_, List.mem_cons_self, rfl⟩
      | state huses' => cases (huses.unique huses').2
      | neither hnone => cases (hnone _ _ huses).1
  | state huses =>
      cases h' with
      | props huses' => cases (huses.unique huses').2
      | @state _ props shape huses' =>
          rcases List.mem_pair.mp hw with rfl | rfl
          · exact .inl ⟨_, List.mem_cons_self, rfl⟩
          · exact .inl ⟨⟨"State", shape⟩, by simp, rfl⟩
      | neither hnone => cases (hnone _ _ huses).2

/-- Whatever the places of a tree are found to call for, the bases are the same. -/
theorem CallsFor.mem {all : List (List Wanted)}
    (hall : List.Forall₂ (Calls root) (Site.all root) all)
    {base : String} (h : CallsFor root base) : ∃ w ∈ all.flatten, w.base = base := by
  obtain ⟨site, hsite, wanted, hcalls, w, hw, rfl⟩ := h
  obtain ⟨wanted', hcalls', hmem⟩ := exists_calls_of_mem hall hsite
  rcases hcalls.base_mem hcalls' hw with ⟨w', hw', hbase⟩ | ⟨hbase, declaration, hdescribed⟩
  · exact ⟨w', hmem w' hw', hbase⟩
  · obtain ⟨w', hw', hprops⟩ := hdescribed.props_mem hall
    exact ⟨w', hw', hprops.trans hbase.symm⟩

end

/-- The names of the interfaces of an annotated document, by what its tree calls for. -/
theorem interfaces_of_document {doc : Document} {a : Annotated}
    (h : doc.annotate.result = .ok a) {name : String} :
    (name ∈ a.interfaces → ∃ base i, CallsFor doc.root base ∧ name = TypeName.candidate base i) ∧
    (CallsFor doc.root name → name ∉ TypeName.globals → ¬ Declares doc.root name →
      name ∈ a.interfaces) := by
  obtain ⟨declared, d, hdeclared, hrun, _, hi, _⟩ := annotate_document_eq_ok.mp h
  obtain ⟨all, interfaces, hall, hclaims, hwritten⟩ :=
    Draft.claims_decideAll (fun _ hs => hs) (Draft.remembered_start declared) hrun
  have hwritten : d.written = interfaces := hwritten
  have hnames : a.interfaces = interfaces.map (·.1) := by
    rw [← hwritten, Draft.map_fst_written]
    unfold Annotated.interfaces Draft.interfaces
    rw [hi]
  rw [hnames]
  constructor
  · intro hname
    obtain ⟨w, hw, i, heq⟩ := hclaims.exists_candidate hname
    obtain ⟨wanted, hwanted, hw⟩ := List.mem_flatten.mp hw
    obtain ⟨site, hsite, hcalls⟩ := exists_of_mem_forall₂ hall hwanted
    exact ⟨w.base, i, ⟨site, hsite, wanted, hcalls, w, hw, rfl⟩, heq⟩
  · intro hcalls hglobal hdeclares
    obtain ⟨w, hw, rfl⟩ := hcalls.mem hall
    refine hclaims.base_mem hw fun htaken => ?_
    rcases List.mem_append.mp htaken with hmem | hmem
    · exact hdeclares (declares_of_mem hdeclared hmem)
    · exact hglobal hmem

/--
**An interface is called like an import only if the file calls for the name.** A name that is
imported is that of an interface only if it is what some place of the file wants an interface to
be named after, perhaps with a number, and neither declared by the file nor everywhere. If a
place wants the name itself then there is an interface of that name, imported or not.
-/
theorem interfaces_meet_imports {parse : Parser} {source language : String} {allowErrors : Bool}
    {a : Annotated} (h : (annotate parse source language allowErrors).result = .ok a) :
    ∃ dialect, Dialect.ofName language = .ok dialect ∧
      ∀ name, Imports (parse dialect source).root name →
        (name ∈ a.interfaces →
          (∃ base i, CallsFor (parse dialect source).root base ∧
            name = TypeName.candidate base i) ∧
          name ∉ TypeName.globals ∧ ¬ Declares (parse dialect source).root name) ∧
        (CallsFor (parse dialect source).root name → name ∉ TypeName.globals →
          ¬ Declares (parse dialect source).root name → name ∈ a.interfaces) := by
  obtain ⟨dialect, hdialect, _, hdoc⟩ := annotate_eq_ok.mp h
  refine ⟨dialect, hdialect, fun name _ => ⟨fun hname => ?_, (interfaces_of_document hdoc).2⟩⟩
  obtain ⟨hglobal, hdeclares, _⟩ := (wellNamed_of_document hdoc).2 name hname
  exact ⟨(interfaces_of_document hdoc).1 hname, hglobal, hdeclares⟩

/-! ## An import and a parameter of one name -/

namespace Imported

/-- A module that imports a name, and a function whose parameter has that name in lower case. -/
def source : String := "import \x7b P \x7d from 'm';\nfunction f(p) \x7b p.x; \x7d"

/-- The import of the name. -/
def statement : Node :=
  nodeOf source "import_statement" 0 22 none
    [nodeOf source "import_clause" 7 12 none
      [nodeOf source "named_imports" 7 12 none
        [nodeOf source "import_specifier" 9 10 none
          [nodeOf source "identifier" 9 10 (some "name")]]],
     nodeOf source "string" 18 21 (some "source")]

/-- The function. -/
def function : Node :=
  nodeOf source "function_declaration" 23 45 none
    [nodeOf source "identifier" 32 33 (some "name"),
     nodeOf source "formal_parameters" 33 36 (some "parameters") [parameterOf source 34 35],
     nodeOf source "statement_block" 37 45 (some "body")
      [nodeOf source "expression_statement" 39 43 none [accessOf source 39 40 42 none]]]

/-- The tree of the module. -/
def root : Node := nodeOf source "program" 0 45 none [statement, function]

/-- The parser that knows the tree of the module. -/
def parse : Parser := fun _ _ => ⟨root, false⟩

def document : Document := ⟨source, root⟩

/-- What is inserted into the module. -/
def edits : List Edit := [⟨0, "interface P \x7b\n    x: any,\n\x7d\n\n"⟩, ⟨35, ": P"⟩]

/-- The module with its annotations. -/
def annotated : Annotated where
  source := "interface P \x7b\n    x: any,\n\x7d\n\n" ++
    "import \x7b P \x7d from 'm';\nfunction f(p: P) \x7b p.x; \x7d"
  insertions := document.draft.1.insertions
  diagnostics := document.draft.1.diagnostics

theorem editsTo : document.EditsTo edits annotated.source := by
  constructor <;> decide +kernel

theorem annotate_document : document.annotate.result = .ok annotated :=
  Document.annotate_of_editsTo editsTo

theorem annotate_eq : (annotate parse source "tsx" false).result = .ok annotated :=
  annotate_of_document document rfl rfl annotate_document

theorem imports : Imports root "P" := by
  have hbindings : importBindings root = [nodeOf source "identifier" 9 10 (some "name")] := rfl
  refine ⟨_, hbindings ▸ List.mem_singleton_self _, ?_⟩
  decide +kernel

end Imported

/-- An import does not keep an interface from being called like it. -/
theorem interface_called_like_import :
    (annotate Imported.parse Imported.source "tsx" false).result = .ok Imported.annotated ∧
      Imports Imported.root "P" ∧ Imported.annotated.interfaces = ["P"] := by
  exact ⟨Imported.annotate_eq, Imported.imports, by decide +kernel⟩

theorem interfaces_meet_imports_parameter :
    (annotate Imported.parse Imported.source "tsx" false).result = .ok Imported.annotated ∧
      Imports Imported.root "P" ∧
      ∃ base i, CallsFor Imported.root base ∧ "P" = TypeName.candidate base i := by
  obtain ⟨_, _, hmeets⟩ := interfaces_meet_imports Imported.annotate_eq
  have hname : "P" ∈ Imported.annotated.interfaces := by decide +kernel
  exact ⟨Imported.annotate_eq, Imported.imports, ((hmeets "P" Imported.imports).1 hname).1⟩

end ScriptTypes.Annotation
