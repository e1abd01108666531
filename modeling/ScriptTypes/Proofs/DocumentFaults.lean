import ScriptTypes.Proofs.Totality

/-!
# How annotating a document fails

Annotating a document reads nodes, takes their ranges and inserts texts beside them, and each of
these can fail: some bytes are no text, a range ends before it starts, an insertion lies outside
the source. An interpreter may also run out of room for calls inside one another on a tree that is
deep enough; how much room it has is not said here, so that such a failure is not one of these. A
failure that says that a source has syntax errors comes from the parser, and from nowhere else.

So an attempt with a grammar that finds errors has come no further than to the parser. It has
logged nothing, and what is logged with a second grammar is what the attempt logged that was
taken.
-/

namespace ScriptTypes

open Syntax

/-- The failure is one of those that working on a tree can end with. -/
inductive Fault.OfTree : Fault → Prop where
  | undecodable {fault : Utf8.Fault} : OfTree (.undecodable fault)
  | reversedSpan {start stop : Int} : OfTree (.reversedSpan start stop)
  | offsetOutside {offset : Int} {size : Nat} : OfTree (.offsetOutside offset size)

/-- The operation fails as working on a tree does. -/
abbrev WorksOnTree {α : Type} (x : Except Fault α) : Prop := FailsAs Fault.OfTree x

/-! ## Reading and measuring -/

theorem worksOnTree_textOf (bytes : List UInt8) : WorksOnTree (textOf bytes) := by
  intro f hf
  unfold textOf at hf
  cases hdecode : Utf8.decode bytes with
  | ok text =>
      rw [hdecode] at hf
      cases hf
  | error fault =>
      rw [hdecode] at hf
      cases hf
      exact .undecodable

theorem worksOnTree_text (n : Node) : WorksOnTree n.text := worksOnTree_textOf _

theorem worksOnTree_between (start stop : Int) : WorksOnTree (Span.between start stop) := by
  intro f hf
  unfold Span.between at hf
  split at hf
  · cases hf
  · cases hf
    exact .reversedSpan

theorem worksOnTree_within (size : Nat) (offset : Int) (text : String) :
    WorksOnTree (Edit.within size offset text) := by
  intro f hf
  unfold Edit.within at hf
  split at hf
  · cases hf
  · cases hf
    exact .offsetOutside

/-! ## Types -/

theorem worksOnTree_elementType {cs : List Node} (h : ∀ c ∈ cs, WorksOnTree (inferType? c))
    (shared : Option InferredType) : WorksOnTree (elementType shared cs) := by
  induction cs generalizing shared with
  | nil => exact .pure
  | cons c cs ih =>
      have hrest := ih fun c hc => h c (List.mem_cons_of_mem _ hc)
      rw [elementType]
      split
      · split
        · exact .pure
        · refine (h c List.mem_cons_self).bind fun t => ?_
          cases t with
          | none => exact .pure
          | some t =>
              dsimp only
              split
              · exact hrest _
              · exact .pure
      · exact hrest _

theorem worksOnTree_assignedType? {cs : List Node} (h : ∀ c ∈ cs, WorksOnTree (inferType? c)) :
    WorksOnTree (assignedType? cs) := by
  induction cs with
  | nil => exact .pure
  | cons c cs ih =>
      rw [assignedType?]
      split
      · exact h c List.mem_cons_self
      · exact ih fun c hc => h c (List.mem_cons_of_mem _ hc)

theorem worksOnTree_isBigIntCall (call : Node) : WorksOnTree (isBigIntCall call) := by
  unfold isBigIntCall
  split
  · split
    · exact (worksOnTree_text _).bind fun _ => .pure
    · exact .pure
  · exact .pure

theorem worksOnTree_inferType? (n : Node) : WorksOnTree (inferType? n) := by
  induction n using Node.induction with
  | mk d cs ih =>
      rw [inferType?]
      split
      · exact (worksOnTree_textOf _).bind fun _ => .pure
      · split
        · exact .pure
        · split
          · exact (worksOnTree_textOf _).bind fun _ => .pure
          · split
            · exact (worksOnTree_elementType ih none).bind fun _ => .pure
            · split
              · exact worksOnTree_assignedType? ih
              · split
                · exact (worksOnTree_isBigIntCall _).bind fun _ => .pure
                · exact .pure

theorem worksOnTree_inferTypeOf? (e : Option Node) : WorksOnTree (inferTypeOf? e) := by
  cases e with
  | none => exact .pure
  | some n => exact worksOnTree_inferType? n

/-! ## Usages -/

namespace Usage

variable {name : String}

theorem worksOnTree_keyName? (key : Option Node) : WorksOnTree (keyName? key) := by
  unfold keyName?
  split
  · exact .pure
  · split
    · exact (worksOnTree_text _).bind fun _ => .pure
    · split
      · exact (worksOnTree_text _).bind fun _ => .pure
      · exact .pure

theorem worksOnTree_startsAt (access : Node) : WorksOnTree (startsAt name access) := by
  unfold startsAt
  split
  · exact .pure
  · split
    · exact (worksOnTree_text _).bind fun _ => .pure
    · split
      · split
        · split
          · exact (worksOnTree_text _).bind fun _ => .pure
          · exact .pure
        · exact .pure
      · exact .pure

theorem worksOnTree_outward (access : Node) (above : List Node) :
    WorksOnTree (outward access above) := by
  induction above generalizing access with
  | nil =>
      rw [outward]
      refine (worksOnTree_keyName? _).bind fun key => ?_
      cases key with
      | none | some _ => exact .pure
  | cons parent above ih =>
      rw [outward]
      refine (worksOnTree_keyName? _).bind fun key => ?_
      cases key with
      | none => exact .pure
      | some key =>
          dsimp only
          split
          · exact (ih parent).bind fun _ => .pure
          · exact .pure

theorem worksOnTree_accessFragment (access : Focus) :
    WorksOnTree (accessFragment name access) := by
  unfold accessFragment
  refine (worksOnTree_startsAt _).bind fun starts => ?_
  split
  · refine (worksOnTree_outward _ _).bind fun r => ?_
    dsimp only
    split
    · exact .pure
    · exact .pure
  · exact .pure

theorem worksOnTree_chainPath? (chain : List Node) : WorksOnTree (chainPath? name chain) := by
  induction chain with
  | nil => exact .pure
  | cons n rest ih =>
      rw [chainPath?]
      split
      · exact (worksOnTree_text _).bind fun _ => .pure
      · split
        · cases rest with
          | nil => exact (worksOnTree_keyName? _).bind fun _ => .pure
          | cons object rest =>
              refine (worksOnTree_keyName? _).bind fun key => ?_
              cases key with
              | none => exact .pure
              | some property =>
                  dsimp only
                  split
                  · exact .pure
                  · refine ih.bind fun path => ?_
                    cases path with
                    | none | some _ => exact .pure
        · exact .pure

theorem worksOnTree_path? (expression : Option Node) : WorksOnTree (path? name expression) := by
  cases expression with
  | none => exact .pure
  | some e => exact worksOnTree_chainPath? _

theorem worksOnTree_withFields {tell? : Node → Except Fault (Option (String × Fragment))}
    {known : Fragment} {cs : List Node} (h : ∀ c ∈ cs, WorksOnTree (tell? c)) :
    WorksOnTree (withFields tell? known cs) := by
  induction cs generalizing known with
  | nil => exact .pure
  | cons c cs ih =>
      rw [withFields]
      refine (h c List.mem_cons_self).bind fun told => ?_
      exact ih fun c hc => h c (List.mem_cons_of_mem _ hc)

theorem worksOnTree_patternElement? {c : Node} (h : WorksOnTree (pairPatternShape? c)) :
    WorksOnTree (patternElement? c) := by
  unfold patternElement?
  split
  · exact .pure
  · split
    · exact (worksOnTree_text _).bind fun _ => .pure
    · split
      · split
        · split
          · exact (worksOnTree_text _).bind fun _ => .pure
          · exact .pure
        · exact .pure
      · split
        · refine (worksOnTree_keyName? _).bind fun key => ?_
          cases key with
          | none => exact .pure
          | some key => exact h.bind fun _ => .pure
        · exact .pure

theorem worksOnTree_pattern (n : Node) : WorksOnTree (patternShape n) ∧
    WorksOnTree (boundShape n) ∧ WorksOnTree (pairPatternShape? n) := by
  induction n using Node.induction with
  | mk d cs ih =>
      have hpattern : WorksOnTree (patternShape (.mk d cs)) := by
        rw [patternShape_eq]
        exact worksOnTree_withFields fun c hc => worksOnTree_patternElement? (ih c hc).2.2
      refine ⟨hpattern, ?_, ?_⟩
      · rw [boundShape_eq]
        split
        · exact hpattern
        · split
          · split
            · rename_i left hleft
              split
              · exact (ih left (Node.mem_of_field? hleft)).1
              · exact .pure
            · exact .pure
          · exact .pure
      · rw [pairPatternShape?_eq]
        cases hvalue : (Node.mk d cs).field? "value" with
        | none => exact .pure
        | some value => exact (ih value (Node.mem_of_field? hvalue)).2.1.bind fun _ => .pure

theorem worksOnTree_literalMember? {c : Node} (h : WorksOnTree (pairShape c)) :
    WorksOnTree (literalMember? c) := by
  unfold literalMember?
  split
  · exact .pure
  · split
    · exact (worksOnTree_text _).bind fun _ => .pure
    · split
      · refine (worksOnTree_keyName? _).bind fun key => ?_
        cases key with
        | none => exact .pure
        | some key => exact h.bind fun _ => .pure
      · exact .pure

theorem worksOnTree_literal (n : Node) : WorksOnTree (literalShape n) ∧
    WorksOnTree (valueShape n) ∧ WorksOnTree (pairShape n) := by
  induction n using Node.induction with
  | mk d cs ih =>
      have hliteral : WorksOnTree (literalShape (.mk d cs)) := by
        rw [literalShape_eq]
        exact worksOnTree_withFields fun c hc => worksOnTree_literalMember? (ih c hc).2.2
      refine ⟨hliteral, ?_, ?_⟩
      · rw [valueShape_eq]
        split
        · exact hliteral
        · exact .pure
      · rw [pairShape_eq]
        cases hvalue : (Node.mk d cs).field? "value" with
        | none => exact .pure
        | some value => exact (ih value (Node.mem_of_field? hvalue)).2.1

theorem worksOnTree_describedFragment {kind : String} {shapeOf : Node → Except Fault Fragment}
    (h : ∀ n, WorksOnTree (shapeOf n)) (description target : Option Node) :
    WorksOnTree (describedFragment kind shapeOf name description target) := by
  unfold describedFragment
  split
  · split
    · refine (worksOnTree_path? _).bind fun path => ?_
      cases path with
      | none => exact .pure
      | some path => exact (h _).bind fun _ => .pure
    · exact .pure
  · exact .pure

theorem worksOnTree_classFieldFragment (definition : Node) :
    WorksOnTree (classFieldFragment name definition) := by
  unfold classFieldFragment
  refine (worksOnTree_keyName? _).bind fun key => ?_
  split
  · split
    · split
      · exact (worksOnTree_literal _).1
      · exact .pure
    · exact .pure
  · exact .pure

theorem worksOnTree_fragment (f : Focus) : WorksOnTree (fragment name f) := by
  unfold fragment
  dsimp only
  split
  · exact worksOnTree_accessFragment f
  · split
    · exact worksOnTree_describedFragment (fun n => (worksOnTree_pattern n).1) _ _
    · split
      · exact worksOnTree_describedFragment (fun n => (worksOnTree_literal n).1) _ _
      · split
        · exact worksOnTree_classFieldFragment _
        · exact .pure

theorem worksOnTree_gather (scope : Focus) (name : String) : WorksOnTree (gather scope name) := by
  have hfragments : WorksOnTree (fragments scope name) := .mapM fun f _ => worksOnTree_fragment f
  exact hfragments.bind fun _ => .pure

end Usage

/-! ## Shapes with types -/

namespace Shape

mutual

theorem worksOnTree_typed (s : Shape Node) : WorksOnTree s.typed := by
  match s with
  | .leaf e => exact (worksOnTree_inferTypeOf? e).bind fun _ => .pure
  | .branch fs => exact (worksOnTree_typedFields fs).bind fun _ => .pure

theorem worksOnTree_typedFields (fs : List (String × Shape Node)) :
    WorksOnTree (typedFields fs) := by
  match fs with
  | [] => exact .pure
  | (name, s) :: rest =>
    rw [typedFields]
    refine (worksOnTree_typed s).bind fun _ => ?_
    exact (worksOnTree_typedFields rest).bind fun _ => .pure

end

theorem worksOnTree_members (s : Shape Node) : WorksOnTree s.members := by
  cases s with
  | leaf e => exact .pure
  | branch fs => exact worksOnTree_typedFields _

end Shape

/-! ## Decisions -/

namespace Annotation

variable {doc : Document} (d : Draft)

namespace Draft

theorem worksOnTree_insert (i : Insertion) : WorksOnTree (d.insert doc i) := by
  have hspan : WorksOnTree (i.span doc.fileStart) := by
    cases i with
    | interface | bindingType | typeArguments => exact worksOnTree_between _ _
  exact hspan.bind fun _ => (worksOnTree_within _ _ _).bind fun _ => .pure

theorem worksOnTree_annotatePattern (pattern : Node) (evidence : Evidence) :
    WorksOnTree (d.annotatePattern doc pattern evidence) := by
  have htype : WorksOnTree evidence.type? := by
    unfold Evidence.type?
    split
    · exact .pure
    · exact (worksOnTree_inferTypeOf? _).bind fun _ => .pure
  have hverdict : WorksOnTree (judge doc.bytes pattern evidence) := by
    unfold judge
    split
    · exact .pure
    · split
      · exact htype.bind fun _ => .pure
      · split
        · exact ((worksOnTree_text _).bind fun _ => .pure).bind fun _ => .pure
        · exact .pure
  refine hverdict.bind fun verdict => ?_
  cases verdict with
  | leave | report _ => exact .pure
  | annotate t => exact d.worksOnTree_insert _

theorem worksOnTree_addInterface (base : String) (shape : Option (Shape Node)) :
    WorksOnTree (d.addInterface doc base shape) :=
  (Shape.worksOnTree_members _).bind fun _ => (worksOnTree_insert _ _).bind fun _ => .pure

theorem worksOnTree_parameterInterface (scope : Focus) (name : String) :
    WorksOnTree (d.parameterInterface doc scope name) := by
  have hprops : WorksOnTree (d.constructorProps? scope name) := by
    unfold constructorProps?
    split
    · refine FailsAs.bind ?_ fun _ => .pure
      unfold constructedClass?
      split
      · split
        · exact .pure
        · refine (worksOnTree_text _).bind fun _ => ?_
          split
          · split
            · exact .pure
            · exact (worksOnTree_between _ _).bind fun _ => .pure
          · exact .pure
      · exact .pure
    · exact .pure
  refine hprops.bind fun props => ?_
  cases props with
  | some props => exact .pure
  | none =>
      refine (Usage.worksOnTree_gather _ _).bind fun shape => ?_
      cases shape with
      | none => exact .pure
      | some shape => exact (d.worksOnTree_addInterface _ _).bind fun _ => .pure

theorem worksOnTree_decideParameter (list : Focus) (parameter : Node) :
    WorksOnTree (d.decideParameter doc list parameter) := by
  unfold decideParameter
  split
  · exact .pure
  · rename_i pattern _
    split
    · exact .pure
    · have hjudged : ∀ r : Option String × Draft, WorksOnTree (r.2.annotatePattern doc pattern
          { found := r.1.map .named, initial := parameter.field? "value" }) :=
        fun r => r.2.worksOnTree_annotatePattern _ _
      split
      · split
        · refine (worksOnTree_text _).bind fun name => ?_
          exact (d.worksOnTree_parameterInterface _ name).bind hjudged
        · exact hjudged (none, d)
      · exact hjudged (none, d)

theorem worksOnTree_decideDeclarator (declarator : Focus) :
    WorksOnTree (d.decideDeclarator doc declarator) := by
  have hopen : ∀ value, WorksOnTree (openValue? value) := by
    intro value
    unfold openValue?
    split
    · exact .pure
    · refine FailsAs.bind ?_ fun nullish => ?_
      · unfold isNullish
        split
        · exact .pure
        · split
          · exact (worksOnTree_text _).bind fun _ => .pure
          · exact .pure
      · split
        · exact .pure
        · split
          · exact .pure
          · exact .pure
  unfold decideDeclarator
  split
  · exact .pure
  · split
    · exact .pure
    · refine (worksOnTree_text _).bind fun _ => (hopen _).bind fun value => ?_
      cases value with
      | none => exact .pure
      | some expression => exact d.worksOnTree_annotatePattern _ _

theorem worksOnTree_decideCatch (clause : Node) : WorksOnTree (d.decideCatch doc clause) := by
  unfold decideCatch
  split
  · exact .pure
  · exact d.worksOnTree_annotatePattern _ _

theorem worksOnTree_componentInterfaces (props state : Option (Shape Node)) :
    WorksOnTree (d.componentInterfaces doc props state) := by
  unfold componentInterfaces
  split
  · exact .pure
  · exact (d.worksOnTree_addInterface _ _).bind fun _ => .pure
  · refine (d.worksOnTree_addInterface _ _).bind fun _ => ?_
    exact (worksOnTree_addInterface _ _ _).bind fun _ => .pure

theorem worksOnTree_decideClass (declaration : Focus) :
    WorksOnTree (d.decideClass doc declaration) := by
  have hcomponent : ∀ superclass, WorksOnTree (isComponentClass superclass) := by
    intro superclass
    unfold isComponentClass
    split
    · exact (worksOnTree_text _).bind fun _ => .pure
    · split
      · split
        · exact (worksOnTree_text _).bind fun _ => .pure
        · exact .pure
      · exact .pure
  have hremember : ∀ (d : Draft) arguments,
      WorksOnTree (d.rememberProps declaration.node arguments) := by
    intro d arguments
    unfold rememberProps
    split
    · exact .pure
    · exact (worksOnTree_between _ _).bind fun _ => .pure
  unfold decideClass
  split
  · exact .pure
  · split
    · exact .pure
    · refine (hcomponent _).bind fun component => ?_
      split
      · split
        · exact .pure
        · split
          · exact .pure
          · refine (Usage.worksOnTree_gather _ _).bind fun props => ?_
            refine (Usage.worksOnTree_gather _ _).bind fun state => ?_
            refine (d.worksOnTree_componentInterfaces props state).bind fun r => ?_
            exact (hremember _ _).bind fun d => d.worksOnTree_insert _
      · exact .pure

/-- **Deciding about a place fails as working on a tree does.** -/
theorem worksOnTree_decide (site : Site) : WorksOnTree (d.decide doc site) := by
  cases site with
  | parameter list p => exact d.worksOnTree_decideParameter list p
  | declarator f => exact d.worksOnTree_decideDeclarator f
  | catchClause n => exact d.worksOnTree_decideCatch n
  | classDefinition f => exact d.worksOnTree_decideClass f

theorem ofTree_of_decideAll {sites : List Site} {f : Fault}
    (h : (decideAll doc d sites).2 = some f) : f.OfTree := by
  induction sites generalizing d with
  | nil => cases h
  | cons site sites ih =>
      rw [decideAll] at h
      split at h
      · exact ih _ h
      · rename_i f' hfailed
        obtain rfl := Option.some.inj h
        exact d.worksOnTree_decide site _ hfailed

end Draft

/-- **Annotating a document fails as working on a tree does.** -/
theorem worksOnTree_annotate (doc : Document) : WorksOnTree doc.annotate.result := by
  have hdraft : ∀ f, doc.draft.2 = some f → f.OfTree := by
    intro f hf
    unfold Document.draft at hf
    split at hf
    · exact Draft.ofTree_of_decideAll _ hf
    · rename_i f' hnames
      obtain rfl := Option.some.inj hf
      exact FailsAs.mapM (fun n _ => worksOnTree_text n) _ hnames
  unfold Document.annotate
  dsimp only
  split
  · rename_i f hf
    intro f' herror
    cases herror
    exact hdraft f hf
  · exact (worksOnTree_textOf _).bind fun _ => .pure

end Annotation

/-! ## Two grammars -/

variable {parse : Parser} {source : String} {allowErrors : Bool}

theorem Logged.isRefusal_iff {α : Type} {l : Logged α} :
    l.isRefusal = true ↔ ∃ language, l.result = .error (.syntaxErrors language) := by
  unfold Logged.isRefusal
  split
  · rename_i language hresult
    exact iff_of_true rfl ⟨language, hresult⟩
  · rename_i hother
    exact iff_of_false Bool.false_ne_true fun ⟨language, h⟩ => hother language h

/-- The name of a dialect means it. -/
theorem Dialect.ofName_name (dialect : Dialect) : Dialect.ofName dialect.name = .ok dialect := by
  cases dialect <;> decide +kernel

theorem Dialect.ofName_tsx : Dialect.ofName "tsx" = .ok .tsx := Dialect.ofName_name .tsx

section

variable {language : String} {dialect : Dialect}

/-- **A source is refused if its grammar finds errors in it and none are allowed**, whatever goes
wrong afterwards. -/
theorem isRefusal_annotate (hname : Dialect.ofName language = .ok dialect) :
    (annotate parse source language allowErrors).isRefusal = true ↔
      (parse dialect source).hasErrors = true ∧ allowErrors = false := by
  rw [Logged.isRefusal_iff, annotate_result_eq, hname]
  dsimp only [Except.bind]
  split
  · rename_i hrefused
    exact iff_of_true ⟨_, rfl⟩ hrefused
  · rename_i hread
    refine iff_of_false ?_ hread
    -- what the document itself fails with is no refusal
    rintro ⟨language, hresult⟩
    cases Annotation.worksOnTree_annotate _ _ hresult

/-- **A refused attempt has logged nothing.** -/
theorem log_annotate_of_isRefusal
    (h : (annotate parse source language false).isRefusal = true) :
    (annotate parse source language false).log = [] := by
  cases hname : Dialect.ofName language with
  | error f =>
      rw [annotate, readDocument, hname]
      rfl
  | ok dialect =>
      obtain ⟨herrors, _⟩ := (isRefusal_annotate hname).mp h
      rw [annotate, readDocument, hname]
      dsimp only
      rw [herrors]
      rfl

/-- Which attempt is taken is told by those that are refused. -/
theorem annotateWithFallback_eq_ite :
    annotateWithFallback parse source language allowErrors =
      if (annotate parse source language false).isRefusal = false then
        (annotate parse source language false).inDialect language
      else if language ≠ "tsx" ∧ (annotate parse source "tsx" false).isRefusal = false then
        (annotate parse source "tsx" false).inDialect "tsx"
      else if allowErrors then (annotate parse source language true).inDialect language
      else ⟨[], .error (.syntaxErrors language)⟩ := by
  have hcons : ∀ last used others, annotateInFirst parse source last (used :: others) =
      if (annotate parse source used false).isRefusal = false then
        (annotate parse source used false).inDialect used
      else annotateInFirst parse source last others := by
    intro last used others
    rw [annotateInFirst]
    cases hrefusal : (annotate parse source used false).isRefusal with
    | false => rfl
    | true =>
        rw [if_pos rfl, if_neg Bool.noConfusion, Logged.behind, log_annotate_of_isRefusal hrefusal]
        rfl
  unfold annotateWithFallback candidates
  by_cases htsx : language = "tsx"
  · have hsecond : ¬ (language ≠ "tsx" ∧ (annotate parse source "tsx" false).isRefusal = false) :=
      fun h => h.1 htsx
    rw [if_pos htsx, hcons, annotateInFirst, if_neg hsecond]
  · rw [if_neg htsx, hcons, hcons, annotateInFirst]
    simp only [ne_eq, htsx, not_false_eq_true, true_and]

/-- Which grammar is used in the end is told by the errors that the two of them find. -/
theorem annotateWithFallback_eq (hname : Dialect.ofName language = .ok dialect) :
    annotateWithFallback parse source language allowErrors =
      if (parse dialect source).hasErrors = false then
        (annotate parse source language false).inDialect language
      else if language ≠ "tsx" ∧ (parse .tsx source).hasErrors = false then
        (annotate parse source "tsx" false).inDialect "tsx"
      else if allowErrors then (annotate parse source language true).inDialect language
      else ⟨[], .error (.syntaxErrors language)⟩ := by
  have hfirst : (annotate parse source language false).isRefusal =
      (parse dialect source).hasErrors := by
    rw [Bool.eq_iff_iff, isRefusal_annotate hname, and_iff_left rfl]
  have hsecond : (annotate parse source "tsx" false).isRefusal = (parse .tsx source).hasErrors := by
    rw [Bool.eq_iff_iff, isRefusal_annotate Dialect.ofName_tsx, and_iff_left rfl]
  rw [annotateWithFallback_eq_ite, hfirst, hsecond]

end

end ScriptTypes
