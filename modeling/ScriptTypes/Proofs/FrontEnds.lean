import ScriptTypes.CommandLine.Run
import ScriptTypes.Proofs.DocumentFaults
import ScriptTypes.Proofs.FileRun

/-!
# What the two front ends make of a file

A file can be migrated, or its annotated text can be printed. Both ask its suffix and its imports
for the dialect, but only the migration tries the grammar with markup if that of the dialect
refuses the text. So what is printed is what stands at the target if no second grammar was needed.
Otherwise it may be another text: the annotations are those of a tree that the wrong grammar
recovered.

What becomes of a text on its way to a terminal is not for this program to say. All that is used
of it is that a text without escape characters is left as it is.
-/

namespace ScriptTypes

open Files
open Annotation (Annotated)

/-! ## Text for a terminal -/

namespace Console

theorem plainFrom_eq_self {cs : List Char} (h : '\x1b' ∉ cs) : plainFrom 0 cs = cs := by
  induction cs with
  | nil => rfl
  | cons c cs ih =>
      rw [List.mem_cons, not_or] at h
      have hplain : ¬ (c = '\x1b' ∧ cs.head? = some '[') := fun hc => h.1 hc.1.symm
      rw [plainFrom, if_neg (by decide), if_neg hplain, ih h.2]

/-- A text without escape characters, with which sequences start that control a terminal, is printed
as it is. -/
def KeepsPlain (echo : String → String) : Prop := ∀ s : String, '\x1b' ∉ s.toList → echo s = s

theorem keepsPlain_plain : KeepsPlain plain := by
  intro s h
  rw [plain, plainFrom_eq_self h, String.ofList_toList]

end Console

/-! ## One grammar -/

section

variable {parse : Parser} {options : MigrationOptions} {disk : Disk}
  {source language given : String} {allowErrors strict : Bool} {echo : String → String}

/-- What is annotated without errors is annotated in the same way if errors are allowed. -/
theorem annotate_allowing {a : Annotated}
    (h : (annotate parse source language false).result = .ok a) :
    annotate parse source language allowErrors = annotate parse source language false := by
  unfold annotate readDocument at h ⊢
  cases hdialect : Dialect.ofName language with
  | error f => rfl
  | ok dialect =>
      rw [hdialect] at h
      dsimp only at h ⊢
      cases herrors : (parse dialect source).hasErrors with
      | false => rfl
      | true =>
          rw [herrors] at h
          cases h

theorem Logged.inDialect_eq_ok {l : Logged Annotated} {a : Annotated} {used : String} :
    (l.inDialect language).result = .ok (a, used) ↔ l.result = .ok a ∧ language = used := by
  unfold Logged.inDialect
  cases l.result with
  | error f => exact iff_of_false nofun fun h => nomatch h.1
  | ok b =>
      constructor
      · intro h
        obtain ⟨rfl, rfl⟩ := Prod.mk.inj (Except.ok.inj h)
        exact ⟨rfl, rfl⟩
      · rintro ⟨hb, rfl⟩
        obtain rfl := Except.ok.inj hb
        rfl

/-- What is given in the dialect that was asked for is what its grammar gives, with errors
only if they are allowed. -/
theorem annotate_of_fallback_self {a : Annotated}
    (h : (annotateWithFallback parse source language allowErrors).result = .ok (a, language)) :
    (annotate parse source language true).result = .ok a ∧
      (allowErrors = false → (annotate parse source language false).result = .ok a) := by
  rw [annotateWithFallback_eq_ite] at h
  split_ifs at h with hfirst hsecond hallowed
  · have hok := (Logged.inDialect_eq_ok.mp h).1
    exact ⟨by rw [annotate_allowing hok, hok], fun _ => hok⟩
  · -- another grammar would have been told of
    exact absurd (Logged.inDialect_eq_ok.mp h).2.symm hsecond.1
  · refine ⟨(Logged.inDialect_eq_ok.mp h).1, fun hnot => ?_⟩
    cases hnot.symm.trans hallowed

/-! ## Printing and migrating -/

namespace CommandLine

/-- Telling something beside the result leaves what is printed. -/
theorem stdout_telling {o : Outcome} {lines : List String} :
    (o.telling lines).stdout = o.stdout := by
  unfold Outcome.telling
  split <;> rfl

/-- What is printed of a file is its text as annotated in its own dialect. -/
theorem stdout_runAnnotate {dialect : Dialect} {a : Annotated}
    (hread : readSource disk (Path.ofText given) = .ok source)
    (hdialect : Dialect.ofFile (Path.ofText given) source = .ok dialect)
    (h : (annotate parse source dialect.name !strict).result = .ok a) :
    (runAnnotate echo parse disk
      { path := given, code := none, language := none, strict }).stdout = echo a.source := by
  have hchoose : Dialect.choose none (some (Path.ofText given)) source = .ok dialect := hdialect
  unfold runAnnotate
  dsimp only [Option.map_some]
  rw [hread]
  unfold printAnnotated
  simp only [Option.filter_none, Option.isSome_none, Option.isSome_some, Bool.false_or, if_true]
  rw [hchoose]
  dsimp only
  rw [h]
  exact stdout_telling

/--
**The text that is printed of a file is the text to which it is migrated, if no second grammar was
needed.** If a file is migrated in the dialect that its suffix and its imports tell, with
annotations or without, then the command that prints it annotated prints what stands at its target
afterwards, as far as a terminal shows it: all of it, if there are no escape characters. If the
source is removed, this is said of disks without links.
-/
theorem annotate_prints_target {dialect : Dialect} {report : FileReport}
    (hecho : Console.KeepsPlain echo) (hfree : options.removeSource = true → disk.LinkFree)
    (hdry : options.dryRun = false) (hstrict : strict = true → options.skipInvalid = true)
    (hreport : (migrateFile parse options disk (Path.ofText given)).outcome = .ok report)
    (hstatus : report.status = .migrated ∨ report.status = .unchanged)
    (hread : readSource disk (Path.ofText given) = .ok source)
    (hdialect : Dialect.ofFile (Path.ofText given) source = .ok dialect)
    (hlanguage : report.language = some dialect.name) :
    ∃ target place text, report.target = some (Path.text target) ∧
      disk.locate target = .ok place ∧
      (migrateFile parse options disk (Path.ofText given)).disk.standing place =
        .file (Utf8.encode text) ∧
      (runAnnotate echo parse disk
        { path := given, code := none, language := none, strict }).stdout = echo text ∧
      ('\x1b' ∉ text.toList → (runAnnotate echo parse disk
        { path := given, code := none, language := none, strict }).stdout = text) := by
  have hrun : FileRun parse options disk (Path.ofText given)
      (migrateFile parse options disk (Path.ofText given)) := fileRun_migrateFile
  obtain ⟨plan, hplan, rfl, hdone⟩ := hrun.of_done hreport hstatus
  obtain ⟨place, hl, hs⟩ := hdone hdry hfree
  obtain rfl : source = plan.source := Except.ok.inj (hread.symm.trans hplan.read)
  obtain ⟨dialect', hdialect', hfallback⟩ := hplan.annotated
  obtain rfl := Except.ok.inj (hdialect.symm.trans hdialect')
  obtain hname : plan.language = dialect.name := Option.some.inj hlanguage
  rw [hname] at hfallback
  obtain ⟨hallowing, hstrictly⟩ := annotate_of_fallback_self (congrArg Logged.result hfallback)
  have hprinted :
      (annotate parse plan.source dialect.name !strict).result = .ok plan.annotated := by
    cases strict with
    | false => exact hallowing
    | true =>
        refine hstrictly ?_
        rw [hstrict rfl]
        rfl
  have hstdout : _ = echo _ := stdout_runAnnotate hread hdialect hprinted
  exact ⟨plan.target, place, plan.annotated.source, rfl, hl, hs, hstdout,
    fun hplain => hstdout.trans (hecho _ hplain)⟩

end CommandLine

end

namespace SecondGrammar

/-- A declaration without a value. -/
def source : String := "let a"

/-- Its tree. -/
def root : Syntax.Node :=
  .mk ⟨0, "program", 0, 5, true, none, Utf8.encode "let a"⟩
    [.mk ⟨1, "lexical_declaration", 0, 5, true, none, Utf8.encode "let a"⟩
      [.mk ⟨2, "variable_declarator", 4, 5, true, none, Utf8.encode "a"⟩
        [.mk ⟨3, "identifier", 4, 5, true, some "name", Utf8.encode "a"⟩ []]]]

/-- A parser whose grammar without markup refuses the source. -/
def parse : Parser
  | .typescript, _ => ⟨.mk ⟨0, "program", 0, 5, true, none, Utf8.encode "let a"⟩ [], true⟩
  | .tsx, _ => ⟨root, false⟩

/-- A disk with the source in a script and in a file with markup. -/
def disk : Disk :=
  { top := .folder [("a.js", .file (Utf8.encode source)), ("b.jsx", .file (Utf8.encode source))] }

end SecondGrammar

/-- If a second grammar is needed, another text is printed than the one to which the file is
migrated. -/
theorem annotate_prints_other :
    (migrateFile SecondGrammar.parse {} SecondGrammar.disk (Path.ofText "a.js")).outcome.map
        (fun report => (report.status, report.target)) = .ok (.migrated, some "a.tsx") ∧
    (migrateFile SecondGrammar.parse {} SecondGrammar.disk (Path.ofText "a.js")).disk.standing
        ["a.tsx"] = .file (Utf8.encode "let a: any") ∧
    (CommandLine.runAnnotate Console.plain SecondGrammar.parse SecondGrammar.disk
      { path := "a.js", code := none, language := none, strict := false }).stdout = "let a" := by
  refine ⟨?_, ?_, ?_⟩ <;> decide +kernel

/-- A file with markup needs no second grammar. -/
theorem annotate_prints_target_markup :
    ∃ place text,
      (migrateFile SecondGrammar.parse {} SecondGrammar.disk (Path.ofText "b.jsx")).disk.standing
        place = .file (Utf8.encode text) ∧
      (CommandLine.runAnnotate Console.plain SecondGrammar.parse SecondGrammar.disk
        { path := "b.jsx", code := none, language := none, strict := true }).stdout =
          Console.plain text := by
  have houtline : (migrateFile SecondGrammar.parse {} SecondGrammar.disk
      (Path.ofText "b.jsx")).outcome.map (fun report => (report.status, report.language)) =
        .ok (.migrated, some "tsx") := by decide +kernel
  have hread : readSource SecondGrammar.disk (Path.ofText "b.jsx") = .ok SecondGrammar.source := by
    decide +kernel
  have hdialect : Dialect.ofFile (Path.ofText "b.jsx") SecondGrammar.source = .ok .tsx := by
    decide +kernel
  cases hreport : (migrateFile SecondGrammar.parse {} SecondGrammar.disk
      (Path.ofText "b.jsx")).outcome with
  | error f =>
      rw [hreport] at houtline
      cases houtline
  | ok report =>
      rw [hreport] at houtline
      obtain ⟨hstatus, hlanguage⟩ := Prod.mk.inj (Except.ok.inj houtline)
      obtain ⟨_, place, text, _, _, hs, hstdout, _⟩ := CommandLine.annotate_prints_target
        Console.keepsPlain_plain (fun _ => Disk.linkFree_of_noLinks rfl) rfl (fun _ => rfl) hreport
        (.inl hstatus) hread hdialect hlanguage
      exact ⟨place, text, hs, hstdout⟩

end ScriptTypes
