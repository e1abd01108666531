import ScriptTypes.Proofs.Decision
import ScriptTypes.Proofs.Splice
import ScriptTypes.Proofs.Utf8
import ScriptTypes.Syntax.Outline

/-!
# Sources with their trees

To see what a result says of a source its tree is needed, and that is written down here node by
node, as a parser would. What a document comes to as a whole is then told by its edits: they have to
be those of its draft, and to make the annotated text of the source.
-/

namespace ScriptTypes

namespace Syntax

/-- A named node of a source between two offsets, with a label. -/
def labelledNode (source : String) (id : Nat) (kind : String) (start stop : Nat)
    (field : Option String) (children : List Node := []) : Node :=
  .mk (Record.data ⟨kind, start, stop, none, true, field⟩ (Utf8.encode source) id) children

/-- The same with the label of which nothing is said. -/
def nodeOf (source kind : String) (start stop : Nat) (field : Option String)
    (children : List Node := []) : Node :=
  labelledNode source 0 kind start stop field children

/-- A parameter that is a name. -/
def parameterOf (source : String) (start stop : Nat) : Node :=
  nodeOf source "required_parameter" start stop none
    [nodeOf source "identifier" start stop (some "pattern")]

/-- A property of a name, with the dot between the two. -/
def accessOf (source : String) (start dot stop : Nat) (field : Option String) : Node :=
  nodeOf source "member_expression" start stop field
    [nodeOf source "identifier" start dot (some "object"),
     nodeOf source "property_identifier" (dot + 1) stop (some "property")]

end Syntax

namespace Annotation

/-- Some edits are those of a document, and make a text of its source. -/
structure Document.EditsTo (doc : Document) (edits : List Edit) (text : String) : Prop where
  /-- No place of the document fails. -/
  done : doc.draft.2.isNone = true
  /-- The edits are recorded for its places. -/
  recorded : doc.draft.1.edits doc = edits
  /-- They lie in the source. -/
  inside : ∀ e ∈ edits, e.offset ≤ doc.bytes.length
  /-- Written into the source they make the text. -/
  written : interleave doc.bytes edits = Utf8.encode text

variable {doc : Document} {edits : List Edit} {text : String}

/-- **What a document is annotated as is told by its edits.** -/
theorem Document.annotate_of_editsTo (h : doc.EditsTo edits text) :
    doc.annotate.result = .ok ⟨text, doc.draft.1.insertions, doc.draft.1.diagnostics⟩ := by
  obtain ⟨hdone, hedits, hinside, hwritten⟩ := h
  unfold Document.annotate
  rcases hdraft : doc.draft with ⟨d, failure⟩
  rw [hdraft] at hdone hedits
  obtain rfl := Option.isNone_iff_eq_none.mp hdone
  dsimp only at hedits ⊢
  refine bind_eq_ok.mpr ⟨text, ?_, rfl⟩
  unfold Draft.apply
  rw [hedits, splice_eq_interleave hinside, hwritten, textOf_encode]

/-- So is a source, by a parser that finds no errors in it. -/
theorem annotate_of_document (doc : Document) {parse : Parser} {a : Annotated}
    (hclean : (parse .tsx doc.source).hasErrors = false)
    (htree : (parse .tsx doc.source).root = doc.root) (h : doc.annotate.result = .ok a) :
    (annotate parse doc.source "tsx" false).result = .ok a := by
  have herrors : (parse .tsx doc.source).hasErrors = true → false = true :=
    fun h => nomatch hclean.symm.trans h
  exact annotate_eq_ok.mpr ⟨.tsx, rfl, herrors, htree ▸ h⟩

end Annotation

end ScriptTypes
