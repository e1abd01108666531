import ScriptTypes.Proofs.DocumentFaults
import ScriptTypes.Proofs.FileRun

/-!
# Which grammar a source is annotated with

A source is tried with the grammar of the dialect that was asked for, and then with the one that
knows markup. The first of them that finds no errors settles the matter: what is given is what
annotating in that dialect gives, be it a result or a failure, and nothing else is tried. If both
find errors, the source is refused, or it is annotated with the errors in the dialect that was
asked for.

What an attempt fails with is either a refusal, after which the next one is made, or something
else, which is passed on. The two never meet, since only reading a source can refuse it: whatever
goes wrong with a tree without errors is no refusal. What an attempt logs stays logged, but one
that is refused has not come to any event yet.
-/

namespace ScriptTypes

open Annotation (Annotated Document)

variable {parse other : Parser} {source language : String} {dialect : Dialect}
  {allowErrors : Bool}

/-- What is given is what a run of annotating gives, together with the dialect that it used; what
the run logged and nothing else was logged, and what it failed with is passed on. -/
structure Logged.ComesFrom (l : Logged (Annotated × String)) (run : Logged Annotated)
    (used : String) : Prop where
  /-- The log is that of the run. -/
  log : l.log = run.log
  /-- The result is that of the run, under the name of the dialect. -/
  result : ∀ a, run.result = .ok a → l.result = .ok (a, used)
  /-- A failure of the run is the failure of the whole. -/
  failure : ∀ f, run.result = .error f → l.result = .error f

theorem Logged.inDialect_comesFrom (run : Logged Annotated) (used : String) :
    (run.inDialect used).ComesFrom run used where
  log := rfl
  result := by
    intro a ha
    rw [inDialect, ha]
    rfl
  failure := by
    intro f hf
    rw [inDialect, hf]
    rfl

/-- What comes from a run is refused only if the run is. -/
theorem Logged.ComesFrom.refused {l : Logged (Annotated × String)} {run : Logged Annotated}
    {used name : String} (h : l.ComesFrom run used) (hl : l.result = .error (.syntaxErrors name)) :
    run.result = .error (.syntaxErrors name) := by
  cases hrun : run.result with
  | ok a => cases hl.symm.trans (h.result a hrun)
  | error f =>
      obtain rfl := Except.error.inj ((h.failure f hrun).symm.trans hl)
      rfl

/-! ## One grammar -/

/-- A source in which its grammar finds no errors is annotated by its tree, whether errors are
allowed or not. -/
theorem annotate_of_clean (hname : Dialect.ofName language = .ok dialect)
    (hclean : (parse dialect source).hasErrors = false) :
    annotate parse source language allowErrors =
      Document.annotate ⟨source, (parse dialect source).root⟩ := by
  unfold annotate readDocument
  rw [hname]
  dsimp only
  rw [hclean]
  unfold Logged.andThen
  dsimp only [Bool.not_false, if_true]
  cases hresult : (Document.annotate ⟨source, (parse dialect source).root⟩).result with
  | error f => rfl
  | ok a => rfl

/-- Such a source is not refused. -/
theorem annotate_not_refused (hname : Dialect.ofName language = .ok dialect)
    (hclean : (parse dialect source).hasErrors = false) (name : String) :
    (annotate parse source language allowErrors).result ≠ .error (.syntaxErrors name) := by
  intro hresult
  have hrefusal : (annotate parse source language allowErrors).isRefusal = true :=
    Logged.isRefusal_iff.mpr ⟨name, hresult⟩
  have herrors := ((isRefusal_annotate hname).mp hrefusal).1
  cases hclean.symm.trans herrors

/-- Annotating asks for no tree but that in the dialect. -/
theorem annotate_congr (hname : Dialect.ofName language = .ok dialect)
    (hsame : other dialect source = parse dialect source) :
    annotate other source language allowErrors = annotate parse source language allowErrors := by
  unfold annotate readDocument
  rw [hname]
  dsimp only
  rw [hsame]

/-! ## Two grammars -/

/-- How a source is annotated is settled by a dialect: what is given comes from annotating in it,
with errors allowed or not, and is no refusal. -/
structure SettledBy (parse : Parser) (source language : String) (allowErrors : Bool)
    (used : String) : Prop where
  /-- What is given comes from annotating in the dialect. -/
  comes : ∀ lenient, (annotateWithFallback parse source language allowErrors).ComesFrom
    (annotate parse source used lenient) used
  /-- The source is not refused. -/
  taken : ∀ name, (annotateWithFallback parse source language allowErrors).result ≠
    .error (.syntaxErrors name)

theorem settledBy_of_clean {used : String} (hname : Dialect.ofName used = .ok dialect)
    (hclean : (parse dialect source).hasErrors = false)
    (h : annotateWithFallback parse source language allowErrors =
      (annotate parse source used false).inDialect used) :
    SettledBy parse source language allowErrors used := by
  have hcomes : ∀ lenient, (annotateWithFallback parse source language allowErrors).ComesFrom
      (annotate parse source used lenient) used := by
    intro lenient
    have hsame : annotate parse source used lenient = annotate parse source used false := by
      rw [annotate_of_clean hname hclean, annotate_of_clean hname hclean]
    rw [h, hsame]
    exact Logged.inDialect_comesFrom _ _
  refine ⟨hcomes, fun name hrefused => ?_⟩
  exact annotate_not_refused hname hclean name ((hcomes false).refused hrefused)

/--
**The first grammar that finds no errors settles how a source is annotated.** Let a name mean a
dialect.

* If its grammar finds no errors in the source, the matter is settled by that dialect, and no other
  tree is asked for.
* If it does, the name is not that of the dialect with markup, and the grammar of that one finds no
  errors, then the matter is settled by the dialect with markup; all that is asked of the first tree
  is whether it has errors.
* Otherwise the source is refused under the name that was given, and nothing is logged; or, if
  errors are allowed, what is given comes from annotating with them in the dialect of that name.
-/
theorem first_clean_grammar_settles (hname : Dialect.ofName language = .ok dialect) :
    ((parse dialect source).hasErrors = false →
      SettledBy parse source language allowErrors language ∧
      ∀ other : Parser, other dialect source = parse dialect source →
        annotateWithFallback other source language allowErrors =
          annotateWithFallback parse source language allowErrors) ∧
    ((parse dialect source).hasErrors = true → language ≠ "tsx" →
      (parse .tsx source).hasErrors = false →
      SettledBy parse source language allowErrors "tsx" ∧
      ∀ other : Parser, (other dialect source).hasErrors = true →
        other .tsx source = parse .tsx source →
        annotateWithFallback other source language allowErrors =
          annotateWithFallback parse source language allowErrors) ∧
    ((parse dialect source).hasErrors = true →
      language = "tsx" ∨ (parse .tsx source).hasErrors = true →
      annotateWithFallback parse source language false = ⟨[], .error (.syntaxErrors language)⟩ ∧
      (annotateWithFallback parse source language true).ComesFrom
        (annotate parse source language true) language) := by
  refine ⟨fun hclean => ?_, fun herrors hother hclean => ?_, fun herrors hboth => ?_⟩
  · have hfirst : ∀ p : Parser, p dialect source = parse dialect source →
        annotateWithFallback p source language allowErrors =
          (annotate parse source language false).inDialect language := by
      intro p hp
      rw [annotateWithFallback_eq hname, hp, if_pos hclean, annotate_congr hname hp]
    refine ⟨settledBy_of_clean hname hclean (hfirst parse rfl), fun other hsame => ?_⟩
    rw [hfirst other hsame, hfirst parse rfl]
  · have hsecond : ∀ p : Parser, (p dialect source).hasErrors = true →
        p .tsx source = parse .tsx source →
        annotateWithFallback p source language allowErrors =
          (annotate parse source "tsx" false).inDialect "tsx" := by
      intro p hp hmarkup
      rw [annotateWithFallback_eq hname, hp, if_neg Bool.noConfusion, hmarkup,
        if_pos ⟨hother, hclean⟩, annotate_congr Dialect.ofName_tsx hmarkup]
    refine ⟨settledBy_of_clean Dialect.ofName_tsx hclean (hsecond parse herrors rfl), ?_⟩
    intro other hfound hsame
    rw [hsecond other hfound hsame, hsecond parse herrors rfl]
  · have hneither : ¬ (language ≠ "tsx" ∧ (parse .tsx source).hasErrors = false) := by
      rintro ⟨hother, hclean⟩
      rcases hboth with htsx | hmarkup
      · exact hother htsx
      · cases hclean.symm.trans hmarkup
    have hlast : ∀ allowed : Bool, annotateWithFallback parse source language allowed =
        if allowed then (annotate parse source language true).inDialect language
        else ⟨[], .error (.syntaxErrors language)⟩ := by
      intro allowed
      rw [annotateWithFallback_eq hname, herrors, if_neg Bool.noConfusion, if_neg hneither]
    rw [hlast, hlast]
    exact ⟨rfl, Logged.inDialect_comesFrom _ _⟩

/-- A parser whose first grammar finds errors in every source. -/
def Parser.markupOnly : Parser := fun dialect source =>
  { Parser.bare dialect source with hasErrors := decide (dialect = .typescript) }

/-- A source with markup, under another name of the dialect without it. -/
theorem first_clean_grammar_settles_markup :
    Dialect.ofName " JS " = .ok .typescript ∧
      SettledBy .markupOnly "<b/>" " JS " false "tsx" ∧
      (annotateWithFallback .markupOnly "<b/>" " JS " false).result.map (·.2) = .ok "tsx" := by
  have hname : Dialect.ofName " JS " = .ok .typescript := by decide +kernel
  have hother : " JS " ≠ "tsx" := by decide
  have hsettled : SettledBy .markupOnly "<b/>" " JS " false "tsx" :=
    ((first_clean_grammar_settles hname).2.1 rfl hother rfl).1
  exact ⟨hname, hsettled, by decide +kernel⟩

end ScriptTypes
