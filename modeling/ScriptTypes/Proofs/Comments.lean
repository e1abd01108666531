import ScriptTypes.Proofs.AlikeDrafts
import ScriptTypes.Proofs.Samples

/-!
# Comments do not matter

A parser keeps comments in the tree, between the children of any node. Nothing that is inferred
looks at them: a tree that lost some of its comments resembles the whole one, so the document is
annotated alike, and every node that is left tells what it told before. Two things are asked of
the comments that are taken out, which every parser grants: there is nothing below them, and they
fill no field. And none of them may stand in front of a `#!` line, which is looked for at the
very start of the tree.
-/

namespace ScriptTypes

open Syntax Annotation

namespace Syntax

/-! ## Thinned trees -/

/-- What is left of a tree if some comments below its root are taken out. -/
inductive Node.Thinned : Node → Node → Prop where
  | mk {d : NodeData} {cs cs' : List Node} : Matched Node.Mute Thinned cs cs' →
      Thinned (.mk d cs) (.mk d cs')

/-- No child that is a comment stands in front of a `#!` line. -/
def Node.HashBangFirst (root : Node) : Prop :=
  root.children.Pairwise fun c c' => c.kind = "comment" → c'.kind ≠ "hash_bang_line"

instance (root : Node) : Decidable root.HashBangFirst :=
  inferInstanceAs (Decidable (List.Pairwise _ _))

namespace Node.Thinned

variable {x y : Node}

theorem data_eq (h : x.Thinned y) : x.data = y.data := by
  cases h
  rfl

theorem children (h : x.Thinned y) : Matched Node.Mute Node.Thinned x.children y.children := by
  cases h with
  | mk hchildren => exact hchildren

/-- Nothing need be taken out. -/
theorem refl (n : Node) : n.Thinned n := by
  induction n using Node.induction with
  | mk d cs ih => exact .mk (.of_forall₂ (List.forall₂_same.mpr ih))

/-- A thinned tree resembles the whole one. -/
theorem resemblance : Resemblance Node.Thinned where
  kind := fun h => congrArg NodeData.kind h.data_eq
  start := fun h => congrArg NodeData.start h.data_eq
  stop := fun h => congrArg NodeData.stop h.data_eq
  named := fun h => congrArg NodeData.named h.data_eq
  bytes := fun h => congrArg NodeData.bytes h.data_eq
  children := fun h => h.children.mono fun _ _ hc => ⟨hc, congrArg NodeData.field hc.data_eq⟩

end Node.Thinned

/-- A `#!` line is at the start of a tree if it is at the start of the thinned one. -/
theorem hashBang?_alike {cs cs' : List Node} (h : Matched Node.Mute Node.Thinned cs cs')
    (hfirst : cs.Pairwise fun c c' => c.kind = "comment" → c'.kind ≠ "hash_bang_line") :
    Option.Rel Node.Thinned (cs.head?.bind (·.ofKind? ["hash_bang_line"]))
      (cs'.head?.bind (·.ofKind? ["hash_bang_line"])) := by
  induction h with
  | nil => exact .none
  | @cons c c' cs cs' hc _ _ =>
      show Option.Rel _ (c.ofKind? _) (c'.ofKind? _)
      unfold Node.ofKind?
      rw [Node.Thinned.resemblance.kind hc]
      split
      · exact .some hc
      · exact .none
  | @skip c cs cs' hc _ ih =>
      obtain ⟨hothers, hfirst⟩ := List.pairwise_cons.mp hfirst
      have hcomment : (c :: cs).head?.bind (·.ofKind? ["hash_bang_line"]) = none := by
        show c.ofKind? _ = none
        unfold Node.ofKind?
        rw [hc.kind]
        rfl
      -- behind a comment there is no such line either
      have hrest : cs.head?.bind (·.ofKind? ["hash_bang_line"]) = none := by
        cases cs with
        | nil => rfl
        | cons c' cs =>
            show c'.ofKind? _ = none
            unfold Node.ofKind?
            refine if_neg fun hmem => hothers c' List.mem_cons_self hc.kind ?_
            exact List.mem_singleton.mp hmem
      have hrel := ih hfirst
      rw [hrest] at hrel
      rw [hcomment]
      exact hrel

end Syntax

/-! ## Thinned documents -/

/-- What a parser answers if some comments are taken out of the tree. -/
structure Parse.Thinned (tree tree' : Parse) : Prop where
  /-- The text is as well formed as before. -/
  hasErrors : tree.hasErrors = tree'.hasErrors
  /-- Only comments were taken out. -/
  root : tree.root.Thinned tree'.root
  /-- A `#!` line is at the start, if there is one. -/
  hashBang : tree.root.HashBangFirst

theorem Parse.Thinned.document {tree tree' : Parse} (h : tree.Thinned tree') (source : String) :
    Document.Alike Node.Thinned ⟨source, tree.root⟩ ⟨source, tree'.root⟩ where
  source := rfl
  root := h.root
  fileStart := by
    have hline := hashBang?_alike h.root.children h.hashBang
    unfold Document.fileStart
    dsimp only
    generalize tree.root.children.head?.bind _ = n, tree'.root.children.head?.bind _ = n'
      at hline ⊢
    cases hline with
    | none => rfl
    | some hn =>
        dsimp only
        rw [Node.Thinned.resemblance.stop hn]
        rfl

/-- Two places tell the same: the same shape of every name, and the same type. -/
structure SameInference (f g : Focus) : Prop where
  /-- The same shapes are told, with what is left of the expressions. -/
  gather : ∀ name, SameOutcome (Option.Rel (Shape.Alike Node.Thinned)) (Usage.gather f name)
    (Usage.gather g name)
  /-- The same type is told. -/
  type : inferType? f.node = inferType? g.node

/--
**Comments do not matter.** If some comments are taken out of a tree, annotating the source logs
the same and comes to the same text, interfaces and diagnostics or to the same failure. The places
that are left go together with those of the whole tree, and they tell the same shapes and types.
-/
theorem annotate_of_thinned {parse parse' : Parser} (source language : String)
    (allowErrors : Bool)
    (h : ∀ dialect, Dialect.ofName language = .ok dialect →
      (parse dialect source).Thinned (parse' dialect source)) :
    (annotate parse source language allowErrors).log =
        (annotate parse' source language allowErrors).log ∧
      SameOutcome SameAnnotations (annotate parse source language allowErrors).result
        (annotate parse' source language allowErrors).result ∧
      ∀ dialect, Dialect.ofName language = .ok dialect →
        Matched (fun p => p.node.Mute)
          (fun f g => Counterparts Node.Thinned f g ∧ SameInference f g)
          (Focus.ofRoot (parse dialect source).root).descendants
          (Focus.ofRoot (parse' dialect source).root).descendants := by
  have H := Node.Thinned.resemblance
  have hannotate : (annotate parse source language allowErrors).log =
        (annotate parse' source language allowErrors).log ∧
      SameOutcome SameAnnotations (annotate parse source language allowErrors).result
        (annotate parse' source language allowErrors).result := by
    unfold annotate readDocument
    cases hdialect : Dialect.ofName language with
    | error f => exact ⟨rfl, .error⟩
    | ok dialect =>
        have htree := h dialect hdialect
        obtain ⟨hlog, hresult⟩ := H.annotate_alike (htree.document source)
        dsimp only
        rw [htree.hasErrors]
        split
        · exact ⟨hlog, hresult⟩
        · split
          · exact ⟨congrArg (Event.recoveredTree language :: ·) hlog, hresult⟩
          · exact ⟨rfl, .error⟩
  refine ⟨hannotate.1, hannotate.2, fun dialect hdialect => ?_⟩
  have hplaces : Matched (fun p => p.node.Mute) (Counterparts Node.Thinned)
      (Focus.ofRoot (parse dialect source).root).descendants
      (Focus.ofRoot (parse' dialect source).root).descendants :=
    H.descendants Counterparts.node Counterparts.child ⟨(h dialect hdialect).root, .nil⟩
  refine hplaces.mono fun f g hfg => ⟨hfg, fun name => ?_, ?_⟩
  · exact H.gather_alike hfg.stands
  · exact H.inferType?_eq hfg.node

/-! ### An array with a comment in it -/

namespace Commented

/-- A declaration of a list with nothing but a comment in it. -/
def source : String := "let a = [/**/];"

/-- The tree of the source, by what stands in the array. -/
def root (elements : List Node) : Node :=
  nodeOf source "program" 0 15 none
    [nodeOf source "lexical_declaration" 0 15 none
      [nodeOf source "variable_declarator" 4 14 none
        [nodeOf source "identifier" 4 5 (some "name"),
         nodeOf source "array" 8 14 (some "value") elements]]]

/-- The comment. -/
def comment : Node := nodeOf source "comment" 9 13 none

/-- The parser that keeps the comment. -/
def parse : Parser := fun _ _ => ⟨root [comment], false⟩

/-- The parser that does not. -/
def parse' : Parser := fun _ _ => ⟨root [], false⟩

theorem root_thinned : (root [comment]).Thinned (root []) := by
  have harray : Matched Node.Mute Node.Thinned [comment] [] := .skip ⟨rfl, rfl, rfl⟩ .nil
  exact .mk (.cons (.mk (.cons (.mk (.cons (.refl _) (.cons (.mk harray) .nil))) .nil)) .nil)

theorem parse_thinned (dialect : Dialect) :
    (parse dialect source).Thinned (parse' dialect source) := by
  have hfirst : (root [comment]).HashBangFirst := by decide
  exact ⟨rfl, root_thinned, hfirst⟩

end Commented

theorem annotate_of_thinned_array :
    (Commented.parse .tsx Commented.source).Thinned (Commented.parse' .tsx Commented.source) ∧
      SameOutcome SameAnnotations
        (annotate Commented.parse Commented.source "tsx" false).result
        (annotate Commented.parse' Commented.source "tsx" false).result ∧
      (Document.draft ⟨Commented.source, Commented.root []⟩).1.edits
          ⟨Commented.source, Commented.root []⟩ = [⟨5, ": any[]"⟩] := by
  have hsame := annotate_of_thinned Commented.source "tsx" false
    fun dialect _ => Commented.parse_thinned dialect
  exact ⟨Commented.parse_thinned .tsx, hsame.2.1, by decide +kernel⟩

end ScriptTypes
