import Assay.Proofs.Listening
import Assay.Proofs.Truncation
import Mathlib.Data.List.Basic

/-! # A policy only classifies

The policy is asked when a case has ended, so it cannot change what the case
did.  In a run that is not stopped at failures it cannot change what the other
cases do either: `Runner.complete_unfolds` describes such a run for all policies
at once, by the same reports and the same last world.  What the policy does
decide, which reports are counted, is monotone in its filters
(`Policy.Tightens.selects`): a stricter policy counts a sublist of the cases.
-/

namespace Assay

/-! ## Substrings -/

namespace Text

theorem occurs_iff {α : Type} [BEq α] [LawfulBEq α] {p s : List α} :
    occurs p s = true ↔ p <:+: s := by
  induction s with
  | nil => simp [occurs]
  | cons a s ih => rw [occurs, Bool.or_eq_true, ih, List.isPrefixOf_iff_prefix, List.infix_cons_iff]

/-- A text contains a pattern if the pattern is a piece of it. -/
theorem contains_iff {text pattern : String} :
    contains text pattern = true ↔ pattern.toList <:+: text.toList := occurs_iff

end Text

/-! ## Stricter policies -/

namespace Policy

/-- A pattern that is asked for by the first filter is part of what the second
one asks for. -/
def Extends (loose strict : Option String) : Prop :=
  ∀ a, loose = some a → ∃ b, strict = some b ∧ a.toList <:+: b.toList

theorem Extends.all_contains {loose strict : Option String} {text : String}
    (h : Extends loose strict) (hstrict : strict.all (Text.contains text) = true) :
    loose.all (Text.contains text) = true := by
  cases loose with
  | none => rfl
  | some a =>
    obtain ⟨b, rfl, hab⟩ := h a rfl
    have hb : b.toList <:+: text.toList := Text.contains_iff.mp hstrict
    exact Text.contains_iff.mpr (hab.trans hb)

/-- **`strict` asks for at least what `loose` asks for.**  Every filter that the
loose policy sets is set in the strict one: with the same return code, or with a
pattern that the loose pattern is a substring of. -/
structure Tightens (loose strict : Policy) : Prop where
  command : Extends loose.command strict.command
  returnCode : ∀ code, loose.returnCode = some code → strict.returnCode = some code
  stdout : Extends loose.stdout strict.stdout
  stderr : Extends loose.stderr strict.stderr

variable {loose strict : Policy}

theorem Tightens.accepts (h : loose.Tightens strict) {log : InvocationLog}
    (haccepts : strict.accepts log = true) : loose.accepts log = true := by
  unfold Policy.accepts at haccepts ⊢
  simp only [Bool.and_eq_true] at haccepts ⊢
  obtain ⟨⟨⟨hcommand, hcode⟩, hstdout⟩, hstderr⟩ := haccepts
  refine ⟨⟨⟨h.command.all_contains hcommand, ?_⟩, h.stdout.all_contains hstdout⟩,
    h.stderr.all_contains hstderr⟩
  cases hloose : loose.returnCode with
  | none => rfl
  | some code =>
    rw [h.returnCode code hloose] at hcode
    exact hcode

/-- A policy that asks for more than one without filters has a filter too. -/
theorem Tightens.isUnrestricted (h : loose.Tightens strict)
    (hstrict : strict.isUnrestricted = true) : loose.isUnrestricted = true := by
  unfold Policy.isUnrestricted at hstrict ⊢
  simp only [Bool.and_eq_true, Option.isNone_iff_eq_none] at hstrict ⊢
  obtain ⟨⟨⟨hcommand, hcode⟩, hstdout⟩, hstderr⟩ := hstrict
  have hnone : ∀ {a b : Option String}, Extends a b → b = none → a = none := by
    intro a b hab hb
    cases a with
    | none => rfl
    | some a =>
      obtain ⟨_, hsome, -⟩ := hab a rfl
      rw [hb] at hsome
      cases hsome
  refine ⟨⟨⟨hnone h.command hcommand, ?_⟩, hnone h.stdout hstdout⟩, hnone h.stderr hstderr⟩
  cases hloose : loose.returnCode with
  | none => rfl
  | some code =>
    rw [h.returnCode code hloose] at hcode
    cases hcode

/-- **Selection is monotone.**  The two ways to be selected stay apart: a case
without calls is selected only by a policy without filters. -/
theorem Tightens.selects (h : loose.Tightens strict) {logs : List InvocationLog}
    (hselects : strict.selects logs = true) : loose.selects logs = true := by
  unfold Policy.selects at hselects ⊢
  rw [Bool.or_eq_true] at hselects ⊢
  rcases hselects with hfree | hany
  · exact .inl (h.isUnrestricted hfree)
  · obtain ⟨log, hlog, haccepts⟩ := List.any_eq_true.mp hany
    exact .inr (List.any_eq_true.mpr ⟨log, hlog, h.accepts haccepts⟩)

/-- The reports that two policies leave for the same cases: the stricter one
counts a sublist. -/
theorem Tightens.enter (h : loose.Tightens strict) (reports : List CaseReport) :
    let few := reports.foldl strict.enter {}
    let many := reports.foldl loose.enter {}
    few.cases.Sublist many.cases ∧ few.passed ≤ many.passed ∧ few.failed ≤ many.failed ∧
      few.exitCode ≤ many.exitCode := by
  intro few many
  have hfew : RunReport.Accounts strict reports few := RunReport.accounts_foldl strict reports
  have hmany : RunReport.Accounts loose reports many := RunReport.accounts_foldl loose reports
  have hcases : few.cases.Sublist many.cases := by
    rw [hfew.cases, hmany.cases]
    exact List.monotone_filter_right reports fun r hr => h.selects hr
  have hfailed : few.failed ≤ many.failed := by
    rw [hfew.failed, hmany.failed]
    exact hcases.countP_le
  refine ⟨hcases, ?_, hfailed, ?_⟩
  · rw [hfew.passed, hmany.passed]
    exact hcases.countP_le
  · unfold RunReport.exitCode
    split <;> split <;> omega

end Policy

/-! ## One run under two policies -/

namespace Runner

variable {σ ρ : Type}

/-- A run to the end unfolds in the same way under every policy: the same cases
end with the same reports and leave the same world, and if one of them raises an
error, it does so under every policy. -/
theorem complete_unfolds (host : Host σ) (suite : Suite σ) (w : World σ) :
    ∃ (reports : List CaseReport) (world : World σ),
      (∃ e, ∀ policy, Unfolds (complete policy) host suite w (.error e)
        (.runStart suite.size :: reports.map policy.announce) world) ∨
      (∀ policy, Unfolds (complete policy) host suite w
        (.ok (timed host w world (reports.foldl policy.enter {})))
        (.runStart suite.size :: reports.map policy.announce ++
          [.runComplete (timed host w world (reports.foldl policy.enter {}))]) world) := by
  obtain ⟨result, events, world, hunfolds⟩ := unfolds (complete {}) host suite w
  cases hunfolds with
  | @raised ran rest case reports mid after e hsplit hran _ hcase =>
    exact ⟨reports, world, .inl ⟨e, fun policy => .raised hsplit hran (fun _ _ => rfl) hcase⟩⟩
  | @settled ran rest reports report last hsplit hran hsettles =>
    obtain ⟨rfl, -⟩ := hsettles.exhausted_of_complete
    exact ⟨reports, world, .inr fun policy =>
      .settled hsplit hran (.exhausted fun _ _ => rfl)⟩

/-- **The policy only classifies, and does so monotonically.**  A suite is run to
the end under two policies, from the same world and with a reporter that never
fails.  The two runs raise the same error, if any, leave the same world, and tell
of the same cases in the same order, counted or not.  If one policy asks for at
least what the other asks for, its report has a sublist of the other's cases, and
none of its counts nor its exit code is larger. -/
theorem policy_only_classifies (p q : Policy) (host : Host σ) (suite : Suite σ)
    (reporter : Reporter ρ) (state : ρ) (w : World σ)
    (quiet : ∀ e s, (reporter.tell e s).1 = .ok ()) :
    let underP := (complete p).run host suite reporter state w
    let underQ := (complete q).run host suite reporter state w
    (∀ e, underP.1 = .error e ↔ underQ.1 = .error e) ∧
    underP.2.world = underQ.2.world ∧
    underP.2.events.filterMap Event.case? = underQ.2.events.filterMap Event.case? ∧
    (p.Tightens q → ∀ many few, underP.1 = .ok many → underQ.1 = .ok few →
      few.cases.Sublist many.cases ∧ few.passed ≤ many.passed ∧ few.failed ≤ many.failed ∧
        few.exitCode ≤ many.exitCode) := by
  intro underP underQ
  obtain ⟨reports, world, ⟨e, hraised⟩ | hsettled⟩ := complete_unfolds host suite w
  · obtain ⟨s, hp : underP = _⟩ := (hraised p).run_of_quiet quiet state
    obtain ⟨s', hq : underQ = _⟩ := (hraised q).run_of_quiet quiet state
    rw [hp, hq]
    refine ⟨fun _ => Iff.rfl, rfl, ?_, fun _ _ _ hok => nomatch hok⟩
    simp only [Event.filterMap_case?]
  · obtain ⟨s, hp : underP = _⟩ := (hsettled p).run_of_quiet quiet state
    obtain ⟨s', hq : underQ = _⟩ := (hsettled q).run_of_quiet quiet state
    rw [hp, hq]
    refine ⟨fun _ => by simp, rfl, ?_, ?_⟩
    · simp only [List.filterMap_append, Event.filterMap_case?]
      rfl
    · intro htightens many few hmany hfew
      cases hmany
      cases hfew
      exact htightens.enter reports

/-- The sample suite without its last case: a looser policy counts two failures, a
stricter one only one of them. -/
theorem policy_only_classifies_sample :
    let loose : Policy := { command := some "oo" }
    let strict : Policy := { command := some "tool", returnCode := some 0 }
    let suite : Suite Nat := ⟨Sample.suite.tool, Sample.suite.cases.take 3⟩
    loose.Tightens strict ∧ ∃ many few,
      ((complete loose).run Sample.host suite .silent () Sample.world).1 = .ok many ∧
      ((complete strict).run Sample.host suite .silent () Sample.world).1 = .ok few ∧
      (many.failed, few.failed) = (2, 1) ∧ few.cases.Sublist many.cases := by
  intro loose strict suite
  have htightens : loose.Tightens strict := by
    refine ⟨?_, ?_, ?_, ?_⟩
    · rintro _ ⟨⟩
      exact ⟨"tool", rfl, ['t'], ['l'], by decide⟩
    · rintro _ ⟨⟩
    · rintro _ ⟨⟩
    · rintro _ ⟨⟩
  obtain ⟨-, -, -, hsublist⟩ := policy_only_classifies loose strict Sample.host suite .silent ()
    Sample.world fun _ _ => rfl
  have hmany : ((complete loose).run Sample.host suite .silent () Sample.world).1.map
      RunReport.failed = .ok 2 := by decide +kernel
  have hfew : ((complete strict).run Sample.host suite .silent () Sample.world).1.map
      RunReport.failed = .ok 1 := by decide +kernel
  cases hrunMany : ((complete loose).run Sample.host suite .silent () Sample.world).1 with
  | error e => rw [hrunMany] at hmany; cases hmany
  | ok many =>
    cases hrunFew : ((complete strict).run Sample.host suite .silent () Sample.world).1 with
    | error e => rw [hrunFew] at hfew; cases hfew
    | ok few =>
      rw [hrunMany] at hmany
      rw [hrunFew] at hfew
      refine ⟨htightens, many, few, rfl, rfl, ?_,
        (hsublist htightens many few hrunMany hrunFew).1⟩
      rw [Except.ok.inj hmany, Except.ok.inj hfew]

end Runner
end Assay
