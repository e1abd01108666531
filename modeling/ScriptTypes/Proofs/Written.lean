import ScriptTypes.Proofs.DocumentFaults
import ScriptTypes.Proofs.FileRun

/-!
# What is written

What is written as the target of a file is the text of the file with its annotations: taken
out of the written bytes, they leave that text. But it is the text as it was read, and reading
turns every line break into a line feed. So the bytes of the file itself are left exactly if
there is no carriage return among them.
-/

namespace ScriptTypes

open Files
open Annotation (Annotated)

/-! ## Line breaks -/

/-- The byte of a carriage return. -/
def carriageReturn : UInt8 := 13

theorem unifiedBreaks_eq_self {cs : List Char} (h : '\r' ∉ cs) : unifiedBreaks cs = cs := by
  fun_induction unifiedBreaks cs with
  | case1 cs => exact absurd List.mem_cons_self h
  | case2 cs => exact absurd List.mem_cons_self h
  | case3 c cs _ _ ih => rw [ih fun hmem => h (List.mem_cons_of_mem _ hmem)]
  | case4 => rfl

theorem not_mem_unifiedBreaks (cs : List Char) : '\r' ∉ unifiedBreaks cs := by
  fun_induction unifiedBreaks cs with
  | case1 cs ih => exact List.not_mem_cons_of_ne_of_not_mem (by decide) ih
  | case2 cs _ ih => exact List.not_mem_cons_of_ne_of_not_mem (by decide) ih
  | case3 c cs _ hc ih => exact List.not_mem_cons_of_ne_of_not_mem (fun h => hc h.symm) ih
  | case4 => exact List.not_mem_nil

/-- A carriage return is among the bytes of a text exactly if it is among its characters. -/
theorem carriageReturn_mem_encode {s : String} :
    carriageReturn ∈ Utf8.encode s ↔ '\r' ∈ s.toList := by
  have hbyte : String.utf8EncodeChar '\r' = [carriageReturn] := by decide
  unfold Utf8.encode
  rw [List.mem_flatMap]
  constructor
  · rintro ⟨c, hc, hmem⟩
    have hone := Utf8.utf8EncodeChar_of_mem (by decide) hmem
    rwa [← Utf8.utf8EncodeChar_injective (hone.trans hbyte.symm)]
  · intro hmem
    exact ⟨'\r', hmem, by rw [hbyte]; exact List.mem_singleton_self _⟩

/-- Reading keeps the bytes of a file exactly if no carriage return is among them. -/
theorem encode_unifiedBreaks_iff {content : List UInt8} {text : String}
    (h : textOf content = .ok text) :
    Utf8.encode (String.ofList (unifiedBreaks text.toList)) = content ↔
      carriageReturn ∉ content := by
  have hcontent : content = Utf8.encode text := (encode_of_textOf h).symm
  constructor
  · intro heq hmem
    rw [← heq, carriageReturn_mem_encode, String.toList_ofList] at hmem
    exact not_mem_unifiedBreaks _ hmem
  · intro hnot
    rw [hcontent, carriageReturn_mem_encode] at hnot
    rw [unifiedBreaks_eq_self hnot, String.ofList_toList, hcontent]

/-! ## What annotating logs -/

section

variable {parse : Parser} {source language target : String} {allowErrors : Bool}

theorem wroteTarget_not_mem_annotate :
    Event.wroteTarget target ∉ (annotate parse source language allowErrors).log := by
  have hdocument : ∀ doc : Annotation.Document, Event.wroteTarget target ∉ doc.annotate.log := by
    intro doc hmem
    obtain ⟨_, _, h⟩ := List.mem_map.mp hmem
    cases h
  unfold annotate readDocument Logged.andThen
  cases Dialect.ofName language with
  | error f => exact List.not_mem_nil
  | ok dialect =>
      dsimp only
      split_ifs
      · simpa using hdocument _
      · simpa using hdocument _
      · exact List.not_mem_nil

/-- With a second grammar there is what one of the attempts gives, or a refusal. -/
theorem annotateWithFallback_cases :
    (∃ used allowed, annotateWithFallback parse source language allowErrors =
      (annotate parse source used allowed).inDialect used) ∨
    annotateWithFallback parse source language allowErrors =
      ⟨[], .error (.syntaxErrors language)⟩ := by
  rw [annotateWithFallback_eq_ite]
  split_ifs
  · exact .inl ⟨_, _, rfl⟩
  · exact .inl ⟨_, _, rfl⟩
  · exact .inl ⟨_, _, rfl⟩
  · exact .inr rfl

theorem Logged.inDialect_log (l : Logged Annotated) (language : String) :
    (l.inDialect language).log = l.log := rfl

/-- Annotating does not write, whichever grammar is used in the end. -/
theorem wroteTarget_not_mem_fallback {log : List Event}
    {result : Except Fault (Annotated × String)}
    (h : annotateWithFallback parse source language allowErrors = ⟨log, result⟩) :
    Event.wroteTarget target ∉ log := by
  obtain rfl : _ = log := congrArg Logged.log h
  rcases @annotateWithFallback_cases parse source language allowErrors with ⟨_, _, heq⟩ | heq
  · rw [heq, Logged.inDialect_log]
    exact wroteTarget_not_mem_annotate
  · rw [heq]
    exact List.not_mem_nil

/-- What is given in the end has been annotated in the dialect that is told. -/
theorem annotate_of_fallback {a : Annotated} {used : String}
    (h : (annotateWithFallback parse source language allowErrors).result = .ok (a, used)) :
    ∃ allowed, (annotate parse source used allowed).result = .ok a := by
  rcases @annotateWithFallback_cases parse source language allowErrors with
    ⟨used', allowed, heq⟩ | heq
  · rw [heq, Logged.inDialect] at h
    cases hresult : (annotate parse source used' allowed).result with
    | error f =>
        rw [hresult] at h
        cases h
    | ok b =>
        rw [hresult] at h
        obtain ⟨rfl, rfl⟩ := Prod.mk.inj (Except.ok.inj h)
        exact ⟨allowed, hresult⟩
  · rw [heq] at h
    cases h

end

/-! ## Targets -/

section

variable {parse : Parser} {options : MigrationOptions} {disk : Disk} {path : Path}

theorem Plan.For.not_wrote {plan : Plan} (h : plan.For parse options disk path) {target : String} :
    Event.wroteTarget target ∉ plan.log := by
  obtain ⟨dialect, _, ha⟩ := h.annotated
  exact wroteTarget_not_mem_fallback ha

/-- A target that is said to have been written holds what was planned. -/
theorem FileRun.of_wrote {work : Work FileReport} {target : String}
    (hfree : options.removeSource = true → disk.LinkFree)
    (h : FileRun parse options disk path work) (hwrote : Event.wroteTarget target ∈ work.log) :
    ∃ plan place, Plan.For parse options disk path plan ∧ target = plan.target.text ∧
      disk.locate plan.target = .ok place ∧ work.disk.standing place = .file plan.bytes ∧
      ∀ report, work.outcome = .ok report → report.status = .unchanged →
        report = plan.report path := by
  cases h with
  | noPath | noSource => cases hwrote
  | unread => cases List.mem_singleton.mp hwrote
  | rejected _ _ ha | unannotated _ _ ha =>
      rcases List.mem_append.mp hwrote with hmem | hmem
      · exact absurd hmem (wroteTarget_not_mem_fallback ha)
      · cases List.mem_singleton.mp hmem
  | noTarget _ _ ha => exact absurd hwrote (wroteTarget_not_mem_fallback ha)
  | unsearched hplan => exact absurd hwrote hplan.not_wrote
  | dry hplan => exact absurd hwrote hplan.not_wrote
  | kept hplan | refused hplan | brokenOff hplan =>
      rcases List.mem_append.mp hwrote with hmem | hmem
      · exact absurd hmem hplan.not_wrote
      · cases List.mem_singleton.mp hmem
  | written hplan hdry hw =>
      obtain ⟨place, hl, _, hs⟩ := hplan.of_write_done hw
      rcases List.mem_append.mp hwrote with hmem | hmem
      · exact absurd hmem hplan.not_wrote
      · refine ⟨_, place, hplan.toFor, Event.wroteTarget.inj (List.mem_singleton.mp hmem), hl, hs,
          fun report hreport _ => (Except.ok.inj hreport).symm⟩
  | unremoved hplan hdry hw hremove hr =>
      obtain ⟨place, hl, _, hs⟩ := hplan.of_write_done hw
      rcases List.mem_append.mp hwrote with hmem | hmem
      · exact absurd hmem hplan.not_wrote
      · rcases List.mem_cons.mp hmem with heq | hmem
        · refine ⟨_, place, hplan.toFor, Event.wroteTarget.inj heq, hl, hs,
            fun report hreport hstatus => ?_⟩
          obtain rfl := Except.ok.inj hreport
          cases hstatus
        · cases List.mem_singleton.mp hmem
  | removed hplan hdry hw hremove hr =>
      obtain ⟨place, hl, hchanged, hs⟩ := hplan.of_write_done hw
      have hfree := hfree hremove
      obtain ⟨place', hl', hchanged', _⟩ := hplan.of_remove hfree hchanged hr
      have hs' := (hchanged'.elsewhere place (hplan.source_ne hfree hl hl').symm).trans hs
      rcases List.mem_append.mp hwrote with hmem | hmem
      · exact absurd hmem hplan.not_wrote
      · refine ⟨_, place, hplan.toFor, Event.wroteTarget.inj (List.mem_singleton.mp hmem), hl, hs',
          fun report hreport _ => (Except.ok.inj hreport).symm⟩

/-- How written bytes come from those of a source. -/
structure FromSource (parse : Parser) (plan : Plan) (content written : List UInt8) : Prop where
  /-- The text that is annotated is that of the source with a line feed for each line break. -/
  text : ∃ text, textOf content = .ok text ∧
    plan.source = String.ofList (unifiedBreaks text.toList)
  /-- Taking the edits out of what is written leaves that text. -/
  restored : ∃ dialect, Dialect.ofName plan.language = .ok dialect ∧
    unsplice written
      (plan.annotated.edits ⟨plan.source, (parse dialect plan.source).root⟩) =
        Utf8.encode plan.source
  /-- These are the bytes of the source exactly if there is no carriage return among them. -/
  exact_iff : Utf8.encode plan.source = content ↔ carriageReturn ∉ content

theorem Plan.For.fromSource {plan : Plan} (h : plan.For parse options disk path) :
    ∃ place content, disk.locate path = .ok place ∧ disk.standing place = .file content ∧
      FromSource parse plan content plan.bytes := by
  obtain ⟨_, place, content, text, hl, hs, _, htext, hsource⟩ := readSource_eq_ok_iff.mp h.read
  refine ⟨place, content, hl, hs, ⟨text, htext, hsource⟩, ?_, ?_⟩
  · obtain ⟨dialect, _, ha⟩ := h.annotated
    obtain ⟨allowed, hannotate⟩ := annotate_of_fallback (congrArg Logged.result ha)
    obtain ⟨used, hused, _, hdoc⟩ := Annotation.annotate_eq_ok.mp hannotate
    have hinserts := Annotation.onlyInserts_of_document hdoc
    exact ⟨used, hused, hinserts.restored⟩
  · rw [hsource]
    exact encode_unifiedBreaks_iff htext

/--
**What is written comes from the source.** When a target has been written, it holds bytes that
leave the text of the source if the edits are taken out, as it was read: with a line feed for
each line break. So the bytes of the source itself are left exactly if there is no carriage
return among them. A file that is reported as unchanged has its text written without edits. If the
source is removed afterwards, this is said of disks without links.
-/
theorem migrateFile_writes_source {target : String}
    (hfree : options.removeSource = true → disk.LinkFree)
    (hwrote : Event.wroteTarget target ∈ (migrateFile parse options disk path).log) :
    ∃ (plan : Plan) (source place : Location) (content : List UInt8),
      plan.For parse options disk path ∧ target = plan.target.text ∧
      disk.locate path = .ok source ∧ disk.standing source = .file content ∧
      disk.locate plan.target = .ok place ∧
      (migrateFile parse options disk path).disk.standing place = .file plan.bytes ∧
      FromSource parse plan content plan.bytes ∧
      ∀ report, (migrateFile parse options disk path).outcome = .ok report →
        report.status = .unchanged → plan.bytes = Utf8.encode plan.source := by
  have hrun : FileRun parse options disk path (migrateFile parse options disk path) :=
    fileRun_migrateFile
  obtain ⟨plan, place, hplan, htarget, hl, hs, hreport⟩ := hrun.of_wrote hfree hwrote
  obtain ⟨source, content, hsource, hcontent, hfrom⟩ := hplan.fromSource
  refine ⟨plan, source, place, content, hplan, htarget, hsource, hcontent, hl, hs, hfrom,
    fun report hdone hstatus => ?_⟩
  rw [hreport report hdone hstatus] at hstatus
  unfold Plan.report FileReport.ofAnnotated at hstatus
  dsimp only at hstatus
  split_ifs at hstatus with hne
  exact congrArg Utf8.encode (not_not.mp hne)

end

/-! ## A line that ends in two characters -/

namespace Returns

/-- The disk with a script of one line. -/
def disk : Disk := { top := .folder [("a.js", .file (Utf8.encode "1;\r\n"))] }

/-- The path of the script. -/
def path : Path := ⟨.relative, ["a.js"]⟩

end Returns

/-- The script is said to be unchanged, and the written bytes are others. -/
theorem migrateFile_changes_breaks :
    (migrateFile .bare {} Returns.disk Returns.path).outcome.map (·.status) =
      .ok .unchanged ∧
    Returns.disk.standing ["a.js"] = .file (Utf8.encode "1;\r\n") ∧
    (migrateFile .bare {} Returns.disk Returns.path).disk.standing ["a.ts"] =
      .file (Utf8.encode "1;\n") := by
  refine ⟨?_, ?_, ?_⟩ <;> decide +kernel

theorem migrateFile_writes_source_returns :
    ∃ (plan : Plan) (content : List UInt8),
      FromSource .bare plan content plan.bytes ∧ Utf8.encode plan.source ≠ content := by
  have hwrote : Event.wroteTarget "a.ts" ∈
      (migrateFile .bare {} Returns.disk Returns.path).log := by decide +kernel
  obtain ⟨plan, source, _, content, _, _, hl, hs, _, _, hfrom, _⟩ :=
    migrateFile_writes_source (fun _ => Disk.linkFree_of_noLinks rfl) hwrote
  have hplace : Returns.disk.locate Returns.path = .ok ["a.js"] := by decide +kernel
  obtain rfl := Except.ok.inj (hplace.symm.trans hl)
  have hfile : Returns.disk.standing ["a.js"] = .file (Utf8.encode "1;\r\n") := by decide +kernel
  obtain rfl := Standing.file.inj (hfile.symm.trans hs)
  refine ⟨plan, _, hfrom, fun heq => hfrom.exact_iff.mp heq ?_⟩
  decide +kernel

end ScriptTypes
