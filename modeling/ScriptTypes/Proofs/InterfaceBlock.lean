import ScriptTypes.Proofs.Boundary
import ScriptTypes.Proofs.Demand
import ScriptTypes.Proofs.References
import ScriptTypes.Proofs.Samples

/-!
# The interfaces stand in one block

Interfaces are decided about in between types that go elsewhere, but they all go in at one
offset, and edits that share an offset keep the order of their recording. So they end up as
one block in the order of the places that called for them, provided that nothing else is
inserted in front of that offset or at it. The block follows a byte order mark and a `#!`
line, and the rest of the source follows the block.

`Claims` threads the names that are taken through the interfaces of a file, as a run does.
-/

namespace ScriptTypes

/-! ## Texts at one offset -/

/-- The texts recorded for an offset come first, and what is recorded for later ones follows. -/
theorem interleaveFrom_eq_append {edits : List Edit} {rest : List UInt8} {offset : Nat} :
    interleaveFrom offset edits rest = textsAt edits offset ++
      interleaveFrom offset (edits.filter fun e => e.offset ≠ offset) rest := by
  have hnone : textsAt (edits.filter fun e => e.offset ≠ offset) offset = [] := by
    unfold textsAt
    rw [List.filter_filter, List.filter_eq_nil_iff.mpr, List.flatMap_nil]
    intro e _
    simp
  -- leaving them out changes nothing at later offsets
  cases rest with
  | nil =>
      rw [interleaveFrom, interleaveFrom, hnone, List.append_nil]
  | cons b rest =>
      have hlater : ∀ o, offset + 1 ≤ o →
          textsAt edits o = textsAt (edits.filter fun e => e.offset ≠ offset) o := by
        intro o ho
        unfold textsAt
        rw [List.filter_filter]
        congr 1
        refine List.filter_congr fun e _ => ?_
        by_cases he : e.offset = o
        · simp only [he, decide_true, Bool.true_and]
          exact (decide_eq_true (by omega)).symm
        · simp [he]
      rw [interleaveFrom, interleaveFrom, hnone, List.nil_append, interleaveFrom_congr hlater]

/-- Where all edits are at an offset or behind it, the texts at the offset make one block. -/
theorem interleave_eq_block {source : List UInt8} {edits : List Edit} {offset : Nat}
    (hle : offset ≤ source.length) (h : ∀ e ∈ edits, offset ≤ e.offset) :
    interleave source edits = source.take offset ++ textsAt edits offset ++
      interleaveFrom offset (edits.filter fun e => e.offset ≠ offset) (source.drop offset) := by
  have hlength : (source.take offset).length = offset := by
    rw [List.length_take]
    omega
  have hfront : ∀ e ∈ edits, e.offset < 0 ∨ 0 + (source.take offset).length ≤ e.offset := by
    intro e he
    have := h e he
    omega
  calc interleave source edits
      = interleaveFrom 0 edits (source.take offset ++ source.drop offset) := by
        rw [List.take_append_drop]
        rfl
    _ = source.take offset ++ interleaveFrom offset edits (source.drop offset) := by
        rw [interleaveFrom_append hfront, Nat.zero_add, hlength]
    _ = _ := by rw [interleaveFrom_eq_append, List.append_assoc]

namespace Annotation

open Syntax

/-! ## The start of a file -/

/-- Where the interfaces of a file go. -/
inductive StartsAt (root : Node) (bytes : List UInt8) : Nat → Prop where
  /-- At the very start. -/
  | plain : (∀ line, root.children.head? = some line → line.kind ≠ "hash_bang_line") →
      ¬ Document.byteOrderMark <+: bytes → StartsAt root bytes 0
  /-- Behind the three bytes of a byte order mark. -/
  | mark : (∀ line, root.children.head? = some line → line.kind ≠ "hash_bang_line") →
      Document.byteOrderMark <+: bytes → StartsAt root bytes 3
  /-- Behind the first line break from the end of a `#!` line on. -/
  | line {line : Node} {i : Nat} : root.children.head? = some line →
      line.kind = "hash_bang_line" → line.stop ≤ i → bytes[i]? = some 10 →
      (∀ j, line.stop ≤ j → j < i → bytes[j]? ≠ some 10) → StartsAt root bytes (i + 1)
  /-- At the end of a `#!` line that no line break follows. -/
  | lastLine {line : Node} : root.children.head? = some line → line.kind = "hash_bang_line" →
      (∀ j, line.stop ≤ j → bytes[j]? ≠ some 10) → StartsAt root bytes line.stop

/-- Behind a line is behind the first line break from an offset on, or there is none. -/
theorem Document.afterLine_spec (bytes : List UInt8) (offset : Nat) :
    (∃ i, offset ≤ i ∧ bytes[i]? = some 10 ∧ (∀ j, offset ≤ j → j < i → bytes[j]? ≠ some 10) ∧
      afterLine bytes offset = i + 1) ∨
    ((∀ j, offset ≤ j → bytes[j]? ≠ some 10) ∧ afterLine bytes offset = offset) := by
  have hdrop : ∀ j, offset ≤ j → (bytes.drop offset)[j - offset]? = bytes[j]? := by
    intro j hj
    rw [List.getElem?_drop]
    congr 1
    omega
  unfold afterLine
  cases hfind : (bytes.drop offset).findIdx? (· == 10) with
  | none =>
      refine .inr ⟨fun j hj hbreak => ?_, rfl⟩
      rw [← hdrop j hj] at hbreak
      have := List.findIdx?_eq_none_iff.mp hfind 10 (List.mem_of_getElem? hbreak)
      simp at this
  | some i =>
      obtain ⟨hlt, hbreak, hfirst⟩ := List.findIdx?_eq_some_iff_getElem.mp hfind
      refine .inl ⟨offset + i, by omega, ?_, fun j hj hlt' hbreak' => ?_, rfl⟩
      · rw [← hdrop (offset + i) (by omega), Nat.add_sub_cancel_left,
          List.getElem?_eq_getElem hlt]
        exact congrArg some (by simpa using hbreak)
      · rw [← hdrop j hj] at hbreak'
        obtain ⟨hj', heq⟩ := List.getElem?_eq_some_iff.mp hbreak'
        exact hfirst (j - offset) (by omega) (by simp [heq])

theorem startsAt_fileStart (doc : Document) : StartsAt doc.root doc.bytes doc.fileStart := by
  unfold Document.fileStart
  cases hline : doc.root.children.head?.bind (·.ofKind? ["hash_bang_line"]) with
  | none =>
      have hno : ∀ line, doc.root.children.head? = some line → line.kind ≠ "hash_bang_line" := by
        intro line hhead hkind
        rw [hhead] at hline
        simp [Node.ofKind?, hkind] at hline
      dsimp only
      split
      · rename_i hmark
        exact .mark hno (List.isPrefixOf_iff_prefix.mp hmark)
      · rename_i hmark
        exact .plain hno fun h => hmark (List.isPrefixOf_iff_prefix.mpr h)
  | some line =>
      obtain ⟨n, hhead, hn⟩ := Option.bind_eq_some_iff.mp hline
      unfold Node.ofKind? at hn
      split at hn
      · rename_i hkind
        obtain rfl := Option.some.inj hn
        rw [List.mem_singleton] at hkind
        dsimp only
        rcases Document.afterLine_spec doc.bytes n.stop with
          ⟨i, hle, hbreak, hfirst, heq⟩ | ⟨hnone, heq⟩
        · rw [heq]
          exact .line hhead hkind hle hbreak hfirst
        · rw [heq]
          exact .lastLine hhead hkind hnone
      · cases hn

namespace StartsAt

variable {root line : Node} {bytes : List UInt8} {fileStart : Nat}

/-- A file starts behind its `#!` line. -/
theorem stop_le (h : StartsAt root bytes fileStart) (hhead : root.children.head? = some line)
    (hk : line.kind = "hash_bang_line") : line.stop ≤ fileStart := by
  cases h with
  | plain hno | mark hno => exact absurd hk (hno line hhead)
  | line hhead' _ hle =>
      obtain rfl := Option.some.inj (hhead.symm.trans hhead')
      exact Nat.le_succ_of_le hle
  | lastLine hhead' =>
      obtain rfl := Option.some.inj (hhead.symm.trans hhead')
      exact Nat.le_refl _

/-- It starts behind its byte order mark, too, if a `#!` line does not end inside the mark. -/
theorem mark_le (h : StartsAt root bytes fileStart) (hmark : Document.byteOrderMark <+: bytes)
    (hline : ∀ line, root.children.head? = some line → line.kind = "hash_bang_line" →
      3 ≤ line.stop) : 3 ≤ fileStart := by
  cases h with
  | plain _ hno => exact absurd hmark hno
  | mark => exact Nat.le_refl _
  | line hhead hk hle => exact Nat.le_succ_of_le (Nat.le_trans (hline _ hhead hk) hle)
  | lastLine hhead hk => exact hline _ hhead hk

/-- Behind a `#!` line, the first line break of the source is in front of where a file starts. -/
theorem break_mem (h : StartsAt root bytes fileStart) (hhead : root.children.head? = some line)
    (hk : line.kind = "hash_bang_line") (hbreak : 10 ∈ bytes) : 10 ∈ bytes.take fileStart := by
  have hmem : ∀ {i n : Nat}, i < n → bytes[i]? = some 10 → 10 ∈ bytes.take n := by
    intro i n hlt hi
    refine List.mem_of_getElem? (i := i) ?_
    rw [List.getElem?_take_of_lt hlt]
    exact hi
  cases h with
  | plain hno | mark hno => exact absurd hk (hno line hhead)
  | line _ _ _ hi => exact hmem (Nat.lt_succ_self _) hi
  | @lastLine line' _ _ hnone =>
      obtain ⟨j, hj⟩ := List.mem_iff_getElem?.mp hbreak
      have hlt : j < line'.stop := by
        by_contra hle
        exact hnone j (by omega) hj
      exact hmem hlt hj

end StartsAt

/-- The bytes in front of the first line break. -/
def firstLine (bytes : List UInt8) : List UInt8 := bytes.takeWhile (· ≠ 10)

/-- What follows a line break is none of the first line. -/
theorem firstLine_append {bytes rest : List UInt8} (h : 10 ∈ bytes) :
    firstLine (bytes ++ rest) = firstLine bytes := by
  unfold firstLine
  induction bytes with
  | nil => cases h
  | cons b bytes ih =>
      rw [List.cons_append, List.takeWhile_cons, List.takeWhile_cons]
      by_cases hb : b = 10
      · simp [hb]
      · have hmem : 10 ∈ bytes := (List.mem_cons.mp h).resolve_left fun heq => hb heq.symm
        rw [ih hmem]

/-! ## Names in the order of the places -/

/-- The name and the text of the interface, if it is one. -/
def Insertion.interface? (i : Insertion) : Option (String × String) :=
  i.interfaceName?.map (·, i.text)

/-- The names and the texts of the interfaces so far. -/
def Draft.written (d : Draft) : List (String × String) := d.insertions.filterMap (·.interface?)

/--
Interfaces take free names, one after the other, each for one thing that is wanted. Their texts
tell the names and what is known of the objects.
-/
inductive Claims : (taken : List String) → List Wanted → List (String × String) → Prop where
  | nil {taken : List String} : Claims taken [] []
  | cons {taken : List String} {wanted : Wanted} {name text : String} {others : List Wanted}
      {interfaces : List (String × String)} :
      name = TypeName.free wanted.base taken → wanted.shape.interfaceText name = .ok text →
      Claims (name :: taken) others interfaces →
      Claims taken (wanted :: others) ((name, text) :: interfaces)

theorem Claims.append {taken : List String} {wanted wanted' : List Wanted}
    {interfaces interfaces' : List (String × String)} (h : Claims taken wanted interfaces)
    (h' : Claims ((interfaces.map (·.1)).reverse ++ taken) wanted' interfaces') :
    Claims taken (wanted ++ wanted') (interfaces ++ interfaces') := by
  induction h with
  | nil => exact h'
  | cons hname htext _ ih =>
      refine .cons hname htext (ih ?_)
      simpa using h'

namespace Draft

variable {doc : Document} {d d' : Draft}

theorem map_fst_written (d : Draft) : d.written.map (·.1) = d.interfaces := by
  unfold written interfaces
  rw [List.map_filterMap]
  congr 1
  funext i
  cases i <;> rfl

/-- An interface that is added claims a free name for what is wanted. -/
theorem claims_describing {base name : String} {shape : Shape Node}
    {members : List (String × Shape InferredType)} (hname : name = TypeName.free base d.taken)
    (hmembers : shape.members = .ok members) :
    Claims d.taken [⟨base, shape⟩] [(name, Shape.interfaceWith name members)] := by
  refine .cons hname ?_ .nil
  unfold Shape.interfaceText
  rw [hmembers]
  rfl

theorem written_adding (i : Insertion) :
    (d.adding i).written = d.written ++ i.interface?.toList := by
  unfold written
  rw [adding_insertions, List.filterMap_append]
  cases i <;> rfl

theorem written_describing {name : String} {members : List (String × Shape InferredType)} :
    (d.describing name members).written =
      d.written ++ [(name, Shape.interfaceWith name members)] := written_adding _

theorem Judged.written {pattern : Node} {evidence : Evidence}
    (h : Judged doc d pattern evidence d') : d'.written = d.written := by
  cases h with
  | annotated | unresolved | reported | ignored => rfl
  | typed => exact (written_adding _).trans (List.append_nil _)

theorem Judged.taken {pattern : Node} {evidence : Evidence}
    (h : Judged doc d pattern evidence d') : d'.taken = d.taken := by
  cases h <;> rfl

/-- What a decision about a place adds to the interfaces, and what it takes of the names. -/
structure Claimed (doc : Document) (d d' : Draft) (site : Site) (wanted : List Wanted)
    (new : List (String × String)) : Prop where
  /-- It is what the place calls for. -/
  calls : Calls doc.root site wanted
  /-- The names were free. -/
  claims : Claims d.taken wanted new
  /-- The interfaces are added in their order. -/
  written : d'.written = d.written ++ new
  /-- Their names are taken from now on. -/
  taken : d'.taken = (new.map (·.1)).reverse ++ d.taken

theorem claimed_nothing {site : Site} (hcalls : Calls doc.root site [])
    (hwritten : d'.written = d.written) (htaken : d'.taken = d.taken) :
    ∃ wanted new, Claimed doc d d' site wanted new :=
  ⟨[], [], hcalls, .nil, by rw [hwritten, List.append_nil], htaken⟩

theorem claimed_parameter (h : Remembered doc d) {list : Focus} {parameter : Node}
    (hp : ParameterDecided doc d list parameter d') :
    ∃ wanted new, Claimed doc d d' (.parameter list parameter) wanted new := by
  cases hp with
  | unnamed hnone =>
      refine claimed_nothing (.unused ?_) rfl rfl
      rintro name shape ⟨pattern, _, hpat, _⟩
      cases hnone.symm.trans hpat
  | annotated _ ha =>
      refine claimed_nothing (.unused ?_) rfl rfl
      rintro name shape ⟨_, _, _, hna, _⟩
      cases ha.symm.trans hna
  | judged hpat hna hs hj =>
      cases hs with
      | none hnone =>
          refine claimed_nothing (.unused ?_) hj.written hj.taken
          rintro name shape ⟨pattern, scope, hpat', _, hk, _, hscope, _⟩
          obtain rfl := Option.some.inj (hpat.symm.trans hpat')
          rcases hnone with hnone | hnone
          · cases hnone.symm.trans hscope
          · exact hnone hk
      | scope hscope hk htext hi =>
          cases hi with
          | unused _ hgather =>
              refine claimed_nothing (.unused ?_) hj.written hj.taken
              rintro name shape ⟨pattern, scope, hpat', _, _, htext', hscope', hgather'⟩
              obtain rfl := Option.some.inj (hpat.symm.trans hpat')
              obtain rfl := Option.some.inj (hscope.symm.trans hscope')
              obtain rfl := Except.ok.inj (htext.symm.trans htext')
              cases hgather.symm.trans hgather'
          | constructed hprops =>
              obtain ⟨rfl, range, hrange, hmem⟩ := of_constructorProps? hprops
              obtain ⟨declaration, hdescribed, hspan⟩ := h _ hmem
              exact claimed_nothing (.constructed hpat htext hscope hrange hdescribed hspan)
                hj.written hj.taken
          | described _ hgather hmembers =>
              refine ⟨_, _, .parameter ⟨_, _, hpat, hna, hk, htext, hscope, hgather⟩,
                claims_describing rfl hmembers, ?_, hj.taken⟩
              exact hj.written.trans written_describing

theorem claimed_class {declaration : Focus} (hc : ClassDecided doc d declaration d') :
    ∃ wanted new, Claimed doc d d' (.classDefinition declaration) wanted new := by
  have hlast : ∀ {e : Draft} {range : Span} {name : String} {superclass : Node}
      {arguments : TypeArguments},
      ((e.remembering range name).adding (.typeArguments superclass arguments)).written =
        e.written := fun {_} => (written_adding _).trans (List.append_nil _)
  cases hc with
  | left hno =>
      refine claimed_nothing (.neither ?_) rfl rfl
      rintro props state ⟨part, superclass, body, ho, _⟩
      exact absurd ho (hno part superclass body)
  | unknown ho hp hs =>
      have huses : ComponentUses declaration none none := ⟨_, _, _, ho, hp, hs⟩
      exact claimed_nothing (.neither fun _ _ h => huses.unique h)
        ((written_adding _).trans (List.append_nil _)) rfl
  | props ho hp hs hname hmembers =>
      refine ⟨_, _, .props ⟨_, _, _, ho, hp, hs⟩, claims_describing hname hmembers, ?_, rfl⟩
      exact hlast.trans written_describing
  | @state _ _ _ _ _ _ propsMembers _ propsName _ ho hp hs hpn hpm hsn hsm =>
      have hprops := claims_describing hpn hpm
      have hstate := claims_describing (d := d.describing propsName propsMembers) hsn hsm
      refine ⟨_, _, .state ⟨_, _, _, ho, hp, hs⟩, hprops.append hstate, ?_, rfl⟩
      rw [hlast, written_describing, written_describing, List.append_assoc]

/-- **Every decision claims names for what its place calls for.** -/
theorem claimed_step {site : Site} (h : Remembered doc d) (hd : Decided doc d d' site) :
    ∃ wanted new, Claimed doc d d' site wanted new := by
  cases hd with
  | parameter hp => exact claimed_parameter h hp
  | declarator hdec =>
      cases hdec with
      | looped | unnamed | closed => exact claimed_nothing .declarator rfl rfl
      | judged _ _ _ _ hj => exact claimed_nothing .declarator hj.written hj.taken
  | catchClause hc =>
      cases hc with
      | unnamed => exact claimed_nothing .catchClause rfl rfl
      | judged _ hj => exact claimed_nothing .catchClause hj.written hj.taken
  | classDefinition hc => exact claimed_class hc

/-- **A run claims names for what its places call for, in their order.** -/
theorem claims_decideAll {sites : List Site} (hsites : ∀ site ∈ sites, site ∈ Site.all doc.root) :
    ∀ {d d' : Draft}, Remembered doc d → decideAll doc d sites = (d', none) →
      ∃ wanted new, List.Forall₂ (Calls doc.root) sites wanted ∧
        Claims d.taken wanted.flatten new ∧ d'.written = d.written ++ new := by
  induction sites with
  | nil =>
      intro d d' _ hrun
      obtain ⟨rfl, -⟩ := Prod.mk.inj hrun
      exact ⟨[], [], .nil, .nil, (List.append_nil _).symm⟩
  | cons site sites ih =>
      intro d d' h hrun
      obtain ⟨d₁, hd, hrest⟩ := decideAll_cons_eq hrun
      have hdecided := decided_of_ok hd
      have hsite := hsites site List.mem_cons_self
      obtain ⟨wanted, new, hfirst⟩ := claimed_step h hdecided
      obtain ⟨others, news, hcalls, hclaims, hwritten⟩ :=
        ih (fun s hs => hsites s (List.mem_cons_of_mem _ hs)) (remembered_step hsite h hdecided)
          hrest
      -- for the other places the names that the first one claims are taken
      rw [hfirst.taken] at hclaims
      refine ⟨wanted :: others, new ++ news, .cons hfirst.calls hcalls,
        hfirst.claims.append hclaims, ?_⟩
      rw [hwritten, hfirst.written, List.append_assoc]

end Draft

/-! ## Interfaces among the edits -/

/-- What is inserted besides interfaces, as edits. -/
def Annotated.others (a : Annotated) (doc : Document) : List Edit :=
  (a.insertions.filter fun i => i.interfaceName? = none).map (·.edit doc.fileStart)

/-- What is inserted besides interfaces goes in behind the start of the file. -/
def Annotated.Behind (a : Annotated) (doc : Document) : Prop :=
  ∀ i ∈ a.insertions, i.interfaceName? = none → doc.fileStart < i.offset doc.fileStart

/-- Just the interfaces go in at the start of the file then. -/
theorem offset_edit_eq_iff {doc : Document} {i : Insertion}
    (h : i.interfaceName? = none → doc.fileStart < i.offset doc.fileStart) :
    (i.edit doc.fileStart).offset = doc.fileStart ↔ i.interfaceName? ≠ none := by
  show i.offset doc.fileStart = _ ↔ _
  constructor
  · intro heq hnone
    have := h hnone
    omega
  · intro hne
    cases i with
    | interface => rfl
    | bindingType | typeArguments => exact absurd rfl hne

theorem textsAt_fileStart {doc : Document} {insertions : List Insertion}
    (h : ∀ i ∈ insertions, i.interfaceName? = none → doc.fileStart < i.offset doc.fileStart) :
    textsAt (insertions.map (·.edit doc.fileStart)) doc.fileStart =
      (insertions.filterMap (·.interface?)).flatMap (Utf8.encode ·.2) := by
  unfold textsAt
  induction insertions with
  | nil => rfl
  | cons i insertions ih =>
      have hrest := ih fun j hj => h j (List.mem_cons_of_mem _ hj)
      have hiff := offset_edit_eq_iff (h i List.mem_cons_self)
      rw [List.map_cons, List.filter_cons, List.filterMap_cons]
      cases i with
      | interface =>
          rw [if_pos (decide_eq_true (hiff.mpr (by simp [Insertion.interfaceName?]))),
            List.flatMap_cons, hrest]
          rfl
      | bindingType | typeArguments =>
          rw [if_neg fun hat => hiff.mp (of_decide_eq_true hat) rfl]
          exact hrest

theorem edits_filter_ne {doc : Document} {a : Annotated} (h : a.Behind doc) :
    ((a.edits doc).filter fun e => e.offset ≠ doc.fileStart) = a.others doc := by
  unfold Annotated.edits Annotated.others
  rw [List.filter_map]
  congr 1
  refine List.filter_congr fun i hi => ?_
  have hiff := offset_edit_eq_iff (h i hi)
  simp only [Function.comp_apply, decide_eq_decide]
  exact (not_congr hiff).trans not_not

/-- Nothing goes in where there is nothing behind the start of a file. -/
theorem insertions_eq_nil {doc : Document} {a : Annotated} (h : doc.annotate.result = .ok a)
    (hbehind : a.Behind doc) (hend : doc.bytes.length ≤ doc.fileStart) : a.insertions = [] := by
  have hinterface : ∀ i ∈ a.insertions, i.interfaceName? ≠ none := by
    intro i hi hnone
    have hlt := hbehind i hi hnone
    have hin := (onlyInserts_of_document h).inside _ (List.mem_map_of_mem hi)
    have : i.offset doc.fileStart ≤ doc.bytes.length := hin
    omega
  refine List.eq_nil_iff_forall_not_mem.mpr fun i hi => ?_
  -- an interface is named by something that is none, but there is no such thing
  obtain ⟨name, hname⟩ := Option.ne_none_iff_exists'.mp (hinterface i hi)
  have hmem : name ∈ a.interfaces := List.mem_filterMap.mpr ⟨i, hi, hname⟩
  obtain ⟨j, hj, hrefers, _⟩ := (wellReferenced_of_document h).referred name hmem
  exact hinterface j hj (by cases hrefers <;> rfl)

/-! ## The block -/

/-- The interfaces of an annotated document stand in one block at its start. -/
structure InterfaceBlock (doc : Document) (a : Annotated) : Prop where
  /-- Where the block goes. -/
  start : StartsAt doc.root doc.bytes doc.fileStart
  /--
  The interfaces are those that the places of the tree call for, in their order, under names
  that were free. In front of them is what the source has in front of its start, and behind
  them the rest of the source with everything else that is inserted.
  -/
  block : ∃ declared wanted interfaces, declaredTypes doc.root = .ok declared ∧
    List.Forall₂ (Calls doc.root) (Site.all doc.root) wanted ∧
    Claims (declared ++ TypeName.globals) wanted.flatten interfaces ∧
    a.interfaces = interfaces.map (·.1) ∧
    Utf8.encode a.source =
      doc.bytes.take doc.fileStart ++ interfaces.flatMap (Utf8.encode ·.2) ++
        interleaveFrom doc.fileStart (a.others doc) (doc.bytes.drop doc.fileStart)
  /-- A byte order mark stays in front. -/
  mark : Document.byteOrderMark <+: doc.bytes → Document.byteOrderMark <+: Utf8.encode a.source
  /-- A `#!` line stays in front. -/
  line : ∀ line, doc.root.children.head? = some line → line.kind = "hash_bang_line" →
    doc.bytes.take line.stop <+: Utf8.encode a.source
  /-- It stays the first line, if it is one that ends with a line break or with the source. -/
  firstLine : ∀ line, doc.root.children.head? = some line → line.kind = "hash_bang_line" →
    10 ∈ doc.bytes ∨ doc.bytes.length ≤ line.stop →
      firstLine (Utf8.encode a.source) = firstLine doc.bytes

theorem encode_eq_block {doc : Document} {a : Annotated} (h : doc.annotate.result = .ok a)
    (hbehind : a.Behind doc) :
    Utf8.encode a.source = doc.bytes.take doc.fileStart ++
      (a.insertions.filterMap (·.interface?)).flatMap (Utf8.encode ·.2) ++
      interleaveFrom doc.fileStart (a.others doc) (doc.bytes.drop doc.fileStart) := by
  have hwritten := (onlyInserts_of_document h).written
  by_cases hle : doc.fileStart ≤ doc.bytes.length
  · have hfrom : ∀ e ∈ a.edits doc, doc.fileStart ≤ e.offset := by
      intro e he
      obtain ⟨i, hi, rfl⟩ := List.mem_map.mp he
      cases hname : i.interfaceName? with
      | none => exact Nat.le_of_lt (hbehind i hi hname)
      | some name => exact ((offset_edit_eq_iff (hbehind i hi)).mpr (by simp [hname])).ge
    rw [hwritten, interleave_eq_block hle hfrom, edits_filter_ne hbehind]
    unfold Annotated.edits
    rw [textsAt_fileStart hbehind]
  · -- a `#!` line that ends behind the source leaves no room for anything
    have hnil := insertions_eq_nil h hbehind (by omega)
    have hedits : a.edits doc = [] := by
      unfold Annotated.edits
      rw [hnil, List.map_nil]
    have hothers : a.others doc = [] := by
      unfold Annotated.others
      rw [hnil, List.filter_nil, List.map_nil]
    rw [hwritten, hedits, hothers, hnil, List.take_of_length_le (by omega),
      List.drop_of_length_le (by omega)]
    simp [interleave_nil, interleaveFrom, textsAt]

theorem interfaceBlock_of_document {doc : Document} {a : Annotated}
    (h : doc.annotate.result = .ok a) (hbehind : a.Behind doc)
    (hline : ∀ line, doc.root.children.head? = some line → line.kind = "hash_bang_line" →
      Document.byteOrderMark <+: doc.bytes → 3 ≤ line.stop) : InterfaceBlock doc a := by
  have hstart := startsAt_fileStart doc
  have hblock := encode_eq_block h hbehind
  have hprefix : doc.bytes.take doc.fileStart <+: Utf8.encode a.source := by
    rw [hblock, List.append_assoc]
    exact List.prefix_append _ _
  constructor
  case start => exact hstart
  case block =>
    obtain ⟨declared, d, hdeclared, hrun, _, hi, _⟩ := annotate_document_eq_ok.mp h
    obtain ⟨wanted, interfaces, hcalls, hclaims, hwritten⟩ :=
      Draft.claims_decideAll (fun _ hs => hs) (Draft.remembered_start declared) hrun
    have hinterfaces : d.written = interfaces := hwritten
    refine ⟨declared, wanted, interfaces, hdeclared, hcalls, hclaims, ?_, ?_⟩
    · rw [← hinterfaces, Draft.map_fst_written]
      unfold Annotated.interfaces Draft.interfaces
      rw [hi]
    · rw [hblock, ← hinterfaces, hi]
      rfl
  case mark =>
    intro hmark
    refine List.IsPrefix.trans ?_ hprefix
    have hle := hstart.mark_le hmark fun line hhead hk => hline line hhead hk hmark
    exact List.prefix_take_iff.mpr ⟨hmark, hle⟩
  case line =>
    intro line hhead hk
    refine List.IsPrefix.trans ?_ hprefix
    exact List.take_prefix_take_left (hstart.stop_le hhead hk)
  case firstLine =>
    intro line hhead hk hends
    by_cases hbreak : 10 ∈ doc.bytes
    · -- the first line ends in front of the block
      have hmem := hstart.break_mem hhead hk hbreak
      calc Annotation.firstLine (Utf8.encode a.source)
          = Annotation.firstLine (doc.bytes.take doc.fileStart) := by
            rw [hblock, List.append_assoc, firstLine_append hmem]
        _ = Annotation.firstLine (doc.bytes.take doc.fileStart ++
              doc.bytes.drop doc.fileStart) := (firstLine_append hmem).symm
        _ = Annotation.firstLine doc.bytes := by rw [List.take_append_drop]
    · -- the line is all there is, and then there is nothing to insert
      have hend := hends.resolve_left hbreak
      have hnil := insertions_eq_nil h hbehind (Nat.le_trans hend (hstart.stop_le hhead hk))
      have hedits : a.edits doc = [] := by
        unfold Annotated.edits
        rw [hnil, List.map_nil]
      rw [(onlyInserts_of_document h).written, hedits, interleave_nil]

/--
**The interfaces stand in one block.** If everything else goes in behind the start of a file,
the annotated text is what the source has in front of its start, then all interfaces in the
order of the places that call for them, then the rest of the source with insertions only. A
byte order mark stays the first character and a `#!` line stays the first line.
-/
theorem interfaces_in_one_block {parse : Parser} {source language : String} {allowErrors : Bool}
    {dialect : Dialect} {a : Annotated} (hdialect : Dialect.ofName language = .ok dialect)
    (h : (annotate parse source language allowErrors).result = .ok a)
    (hbehind : a.Behind ⟨source, (parse dialect source).root⟩)
    (hline : ∀ line, (parse dialect source).root.children.head? = some line →
      line.kind = "hash_bang_line" → Document.byteOrderMark <+: Utf8.encode source →
      3 ≤ line.stop) :
    InterfaceBlock ⟨source, (parse dialect source).root⟩ a := by
  obtain ⟨dialect', hdialect', _, hdoc⟩ := annotate_eq_ok.mp h
  obtain rfl := Except.ok.inj (hdialect.symm.trans hdialect')
  exact interfaceBlock_of_document hdoc hbehind hline

/-! ## A script with two parameters -/

namespace Script

/-- A function that uses both of its parameters, behind a `#!` line. -/
def source : String := "#!n\n(p, q) => p.x + q.y"

/-- A property that is read. -/
def member (field : String) (start : Nat) : Node :=
  accessOf source start (start + 1) (start + 3) (some field)

/-- The tree of the script. -/
def root : Node :=
  nodeOf source "program" 0 23 none
    [nodeOf source "hash_bang_line" 0 3 none,
     nodeOf source "expression_statement" 4 23 none
      [nodeOf source "arrow_function" 4 23 none
        [nodeOf source "formal_parameters" 4 10 (some "parameters")
          [parameterOf source 5 6, parameterOf source 8 9],
         nodeOf source "binary_expression" 14 23 (some "body")
          [member "left" 14, member "right" 20]]]]

/-- The parser that knows the tree of the script. -/
def parse : Parser := fun _ _ => ⟨root, false⟩

def document : Document := ⟨source, root⟩

/-- What is inserted into the script. -/
def edits : List Edit :=
  [⟨4, "interface P \x7b\n    x: any,\n\x7d\n\n"⟩, ⟨6, ": P"⟩,
   ⟨4, "interface Q \x7b\n    y: any,\n\x7d\n\n"⟩, ⟨9, ": Q"⟩]

/-- The script with its annotations. -/
def annotated : Annotated where
  source := "#!n\ninterface P \x7b\n    x: any,\n\x7d\n\ninterface Q \x7b\n    y: any,\n\x7d\n\n" ++
    "(p: P, q: Q) => p.x + q.y"
  insertions := document.draft.1.insertions
  diagnostics := document.draft.1.diagnostics

theorem editsTo : document.EditsTo edits annotated.source := by
  constructor <;> decide +kernel

theorem annotate_document : document.annotate.result = .ok annotated :=
  Document.annotate_of_editsTo editsTo

theorem annotate_eq : (annotate parse source "tsx" false).result = .ok annotated :=
  annotate_of_document document rfl rfl annotate_document

theorem behind : annotated.Behind document := by
  unfold Annotated.Behind
  decide +kernel

end Script

theorem interfaces_in_one_block_script :
    (annotate Script.parse Script.source "tsx" false).result = .ok Script.annotated ∧
      Script.annotated.interfaces = ["P", "Q"] ∧
      InterfaceBlock Script.document Script.annotated ∧
      firstLine (Utf8.encode Script.annotated.source) = Utf8.encode "#!n" := by
  have hblock : InterfaceBlock Script.document Script.annotated := by
    have hdialect : Dialect.ofName "tsx" = .ok .tsx := rfl
    refine interfaces_in_one_block hdialect Script.annotate_eq Script.behind ?_
    intro line hhead _ _
    obtain rfl := Option.some.inj hhead
    exact Nat.le_refl 3
  refine ⟨Script.annotate_eq, by decide +kernel, hblock, ?_⟩
  rw [hblock.firstLine _ rfl rfl (.inl (by decide +kernel))]
  decide +kernel

/-! ## A script of one line -/

namespace OneLine

/-- A function that uses its parameter, in the line of the `#!` and behind it. -/
def source : String := "#!n(p) => p.x"

/-- The tree of the line, in which the `#!` line ends before the line does. -/
def root : Node :=
  nodeOf source "program" 0 13 none
    [nodeOf source "hash_bang_line" 0 3 none,
     nodeOf source "expression_statement" 3 13 none
      [nodeOf source "arrow_function" 3 13 none
        [nodeOf source "formal_parameters" 3 6 (some "parameters") [parameterOf source 4 5],
         accessOf source 10 11 13 (some "body")]]]

/-- The parser that knows the tree of the line. -/
def parse : Parser := fun _ _ => ⟨root, false⟩

def document : Document := ⟨source, root⟩

/-- What is inserted into the line. -/
def edits : List Edit := [⟨3, "interface P \x7b\n    x: any,\n\x7d\n\n"⟩, ⟨5, ": P"⟩]

/-- The line with its annotations. -/
def annotated : Annotated where
  source := "#!ninterface P \x7b\n    x: any,\n\x7d\n\n(p: P) => p.x"
  insertions := document.draft.1.insertions
  diagnostics := document.draft.1.diagnostics

theorem editsTo : document.EditsTo edits annotated.source := by
  constructor <;> decide +kernel

theorem annotate_document : document.annotate.result = .ok annotated :=
  Document.annotate_of_editsTo editsTo

theorem annotate_eq : (annotate parse source "tsx" false).result = .ok annotated :=
  annotate_of_document document rfl rfl annotate_document

theorem behind : annotated.Behind document := by
  unfold Annotated.Behind
  decide +kernel

end OneLine

/-- Where no line break follows a `#!` line an interface goes on in it. -/
theorem firstLine_goes_on :
    (annotate OneLine.parse OneLine.source "tsx" false).result = .ok OneLine.annotated ∧
      OneLine.annotated.Behind OneLine.document ∧
      OneLine.root.children.head?.map (fun line => (line.kind, line.start, line.stop)) =
        some ("hash_bang_line", 0, 3) ∧
      firstLine (Utf8.encode OneLine.source) = Utf8.encode "#!n(p) => p.x" ∧
      firstLine (Utf8.encode OneLine.annotated.source) = Utf8.encode "#!ninterface P \x7b" := by
  exact ⟨OneLine.annotate_eq, OneLine.behind, rfl, by decide +kernel, by decide +kernel⟩

end Annotation

end ScriptTypes
