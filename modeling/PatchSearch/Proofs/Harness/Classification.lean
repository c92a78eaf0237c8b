import Mathlib.Data.List.Forall2
import PatchSearch.Harness.Command
import PatchSearch.Proofs.Evaluation.Calls

namespace PatchSearch

variable {ω ε α β : Type}

/-- A computation that adds events to a list beside the world. -/
def recorded (events : α → List ε) (x : StateM ω α) : StateM (ω × List ε) α := fun s =>
  let (a, s') := x.run s.1
  (a, (s', s.2 ++ events a))

/-- In the world `s` the second computation goes like the first one and adds `events` to the list. -/
def Records (x : StateM ω α) (y : StateM (ω × List ε) α) (s : ω) (events : List ε) : Prop :=
  ∀ before, y.run (s, before) = ((x.run s).1, ((x.run s).2, before ++ events))

section Recording

variable {x : StateM ω α} {y : StateM (ω × List ε) α} {s s' : ω} {events events' : List ε} {a : α}

theorem records_pure (a : α) : Records (pure a) (pure a) s ([] : List ε) := by
  intro before
  rw [List.append_nil]
  rfl

theorem records_recorded (added : α → List ε) (h : x.run s = (a, s')) :
    Records x (recorded added x) s (added a) := by
  intro before
  rw [h]
  change ((x.run s).1, ((x.run s).2, before ++ added (x.run s).1)) = _
  rw [h]

theorem Records.bind {f : α → StateM ω β} {g : α → StateM (ω × List ε) β} (h : Records x y s events)
    (hx : x.run s = (a, s')) (h' : Records (f a) (g a) s' events') :
    Records (x >>= f) (y >>= g) s (events ++ events') := by
  intro before
  rw [run_bind_eq (h before), run_bind_eq hx, hx, ← List.append_assoc]
  exact h' _

end Recording

namespace CommandResult

/-- The status with which a test says that it was skipped. -/
def Skips (r : CommandResult) (skipStatus : Option Int32) : Prop :=
  ∃ status, r.status = some status ∧ skipStatus = some status

/-- What was printed, the errors before the output: the texts that are left without the blanks around
them, one a line. -/
def printed (r : CommandResult) : String :=
  "\n".intercalate (([r.errors, r.output].map Text.trimmed).filter (· ≠ ""))

theorem combined_eq (r : CommandResult) : r.combined = r.printed := by
  unfold combined printed
  by_cases ho : Text.trimmed r.output = ""
  · by_cases he : Text.trimmed r.errors = "" <;> simp [ho, he]
  · by_cases he : Text.trimmed r.errors = "" <;> simp [ho, he]

theorem trimmed_combined (r : CommandResult) : Text.trimmed r.combined = r.combined := by
  have herrors := Text.isBordered_trimmed r.errors
  have houtput := Text.isBordered_trimmed r.output
  refine Text.trimmed_of_isBordered ?_
  unfold combined
  by_cases ho : Text.trimmed r.output = ""
  · simpa only [ho, if_true] using herrors
  · by_cases he : Text.trimmed r.errors = ""
    · simpa only [ho, he, if_true, if_false] using houtput
    · simp only [ho, he, if_false]
      have hlines : (Text.trimmed r.errors ++ "\n" ++ Text.trimmed r.output).toList =
          (Text.trimmed r.errors).toList ++ '\n' :: (Text.trimmed r.output).toList := by
        simp
      rw [hlines]
      refine ⟨fun c hc => herrors.1 c ?_, fun c hc => houtput.2 c ?_⟩
      · rwa [List.head?_append_of_ne_nil _ (by simpa using he)] at hc
      · rwa [List.getLast?_append_of_ne_nil _ (List.cons_ne_nil _ _),
          List.getLast?_cons_of_ne_nil (by simpa using ho)] at hc

theorem diagnostic_eq {r : CommandResult} (h : r.timedOut = false) : r.diagnostic = r.printed := by
  rw [diagnostic, if_neg (ne_true_of_eq_false h), r.trimmed_combined, r.combined_eq]

theorem succeeded_iff {r : CommandResult} (h : r.timedOut = false) :
    r.succeeded = true ↔ r.status = some 0 := by
  simp [succeeded, h]

theorem exception_ne_empty (r : CommandResult) (test : String) : r.exception test ≠ "" := by
  unfold exception
  split
  next => split <;> simp
  next h => exact h

end CommandResult

/-- What the report on a test says of how its command ended. -/
structure TestReport.Tells (t : TestReport) (skipStatus : Option Int32) (test : String)
    (r : CommandResult) : Prop where
  name : t.name = test
  passed : t.passed = true ↔ r.status = some 0 ∨ r.Skips skipStatus
  skipped : t.skipped = true ↔ r.Skips skipStatus ∧ r.status ≠ some 0
  exception : t.passed = false → ∃ text, t.exception = some text ∧ text ≠ ""

theorem CommandResult.tells_report {r : CommandResult} (htime : r.timedOut = false) (c : CommandConfig)
    (test : String) (usage : Usage) : (r.report c test usage).Tells c.skipStatus test r := by
  unfold report
  split
  next h =>
    have hzero : r.status = some 0 := (succeeded_iff htime).mp h
    exact ⟨rfl, by simp [TestReport.pass, hzero], by simp [TestReport.pass, hzero], by simp [TestReport.pass]⟩
  next h =>
    have hzero : r.status ≠ some 0 := fun he => h ((succeeded_iff htime).mpr he)
    rw [if_neg (ne_true_of_eq_false htime)]
    split
    next hs =>
      obtain ⟨status, hstatus⟩ := Option.isSome_iff_exists.mp hs.1
      have hskips : r.Skips c.skipStatus := ⟨status, hstatus, hs.2.symm.trans hstatus⟩
      exact ⟨rfl, by simp [TestReport.skip, hskips], by simp [TestReport.skip, hskips, hzero],
        by simp [TestReport.skip]⟩
    next hs =>
      have hskips : ¬r.Skips c.skipStatus := by
        rintro ⟨status, hstatus, hskip⟩
        exact hs ⟨Option.isSome_of_eq_some hstatus, hstatus.trans hskip.symm⟩
      exact ⟨rfl, by simp [TestReport.fail, hskips, hzero], by simp [TestReport.fail, hskips],
        fun _ => ⟨_, rfl, r.exception_ne_empty test⟩⟩

/-- Each test that failed has a text. -/
theorem TestReport.isSome_of_tells {skipStatus : Option Int32} {runs : List (String × CommandResult)}
    {reports : List TestReport} (h : List.Forall₂ (fun run t => t.Tells skipStatus run.1 run.2) runs reports) :
    ∀ t ∈ reports, t.passed = false → t.exception.isSome = true := by
  induction h with
  | nil => exact List.forall_mem_nil _
  | cons ht _ ih =>
    refine List.forall_mem_cons.mpr ⟨fun hfailed => ?_, ih⟩
    obtain ⟨text, htext, _⟩ := ht.exception hfailed
    exact Option.isSome_of_eq_some htext

namespace Verdict

/-- The exception texts of the failed tests in order. -/
def exceptions (v : Verdict) : List String :=
  (v.tests.filter fun t => !t.passed).filterMap (·.exception)

variable {v : Verdict}

theorem failureText_eq (h : ∀ t ∈ v.tests, t.passed = false → t.exception.isSome = true) :
    v.failureText = "\n".intercalate v.exceptions := by
  have hmap : ∀ ts : List TestReport, (∀ t ∈ ts, t.exception.isSome = true) →
      (ts.map fun t => t.exception.getD "unknown failure") = ts.filterMap (·.exception) := by
    intro ts hts
    induction ts with
    | nil => rfl
    | cons t ts ih =>
      obtain ⟨ht, hts⟩ := List.forall_mem_cons.mp hts
      obtain ⟨text, htext⟩ := Option.isSome_iff_exists.mp ht
      rw [List.map_cons, List.filterMap_cons, ih hts, htext]
      rfl
  rw [failureText, exceptions, hmap]
  intro t ht
  obtain ⟨ht, hfailed⟩ := List.mem_filter.mp ht
  exact h t ht (Bool.not_eq_true' _ ▸ hfailed)

theorem ofTests_cases (reports : List TestReport) (source : String)
    (hv : v = (Verdict.ofTests reports).withSource source)
    (h : ∀ t ∈ reports, t.passed = false → t.exception.isSome = true) :
    (v.outcome = .success ∧ ∀ t ∈ v.tests, t.passed = true) ∨
      (v.outcome = .testFailure ∧ (∃ t ∈ v.tests, t.passed = false) ∧
        v.diagnostic = some ("\n".intercalate v.exceptions)) := by
  subst hv
  cases hall : reports.all (·.passed) with
  | true =>
    refine Or.inl ⟨?_, List.all_eq_true.mp hall⟩
    simp [outcome, allPassed, withSource, ofTests, hall]
  | false =>
    have houtcome : ((Verdict.ofTests reports).withSource source).outcome = .testFailure := by
      simp [outcome, allPassed, withSource, ofTests, hall]
    refine Or.inr ⟨houtcome, ?_, ?_⟩
    · obtain ⟨t, ht, hfailed⟩ := List.all_eq_false.mp hall
      exact ⟨t, ht, Bool.eq_false_iff.mpr hfailed⟩
    · rw [diagnostic, houtcome, failureText_eq h]

end Verdict

namespace Workshop

/-- What a workshop was asked to do, with what came of it. -/
inductive Event where
  | placed (source : String) (answer : Except Failure Unit)
  | ran (command : String) (answer : Except Failure CommandResult)

/-- The candidate was put in its place, or the command was started and ended in time. -/
def Event.succeeds : Event → Bool
  | .placed _ answer => answer.isOk
  | .ran _ (.ok r) => !r.timedOut
  | .ran _ (.error _) => false

/-- The workshop that writes down what it is asked to do. -/
def watched (w : Workshop ω) : Workshop (ω × List Event) where
  place source := recorded (fun answer => [.placed source answer]) (w.place source)
  run command := recorded (fun answer => [.ran command answer]) (w.run command)
  consumed := recorded (fun _ => []) w.consumed
  sample := recorded (fun _ => []) w.sample
  joulesBetween := w.joulesBetween

variable (w : Workshop ω) (c : CommandConfig) (className : String)

/-- One test is one command, which cannot be started or makes the report. -/
theorem runTest_records (test : String) (s : ω) : ∃ answer s',
    Records (w.runTest c className test) (w.watched.runTest c className test) s
      [.ran (c.fillTest className test) answer] ∧
    ((∃ f, answer = .error f ∧ (w.runTest c className test).run s = (.error f, s')) ∨
      ∃ r usage, answer = .ok r ∧
        (w.runTest c className test).run s = (.ok (r.report c test usage), s')) := by
  obtain ⟨⟨start, s₁⟩, hstart⟩ : ∃ r, w.sample.run s = r := ⟨_, rfl⟩
  obtain ⟨⟨before, s₂⟩, hbefore⟩ : ∃ r, w.consumed.run s₁ = r := ⟨_, rfl⟩
  obtain ⟨⟨answer, s₃⟩, hrun⟩ : ∃ r, (w.run (c.fillTest className test)).run s₂ = r := ⟨_, rfl⟩
  have hsilent {α : Type} {x : StateM ω α} {a : α} {s s' : ω} (h : x.run s = (a, s')) :
      Records x (recorded (fun _ => []) x) s ([] : List Event) := records_recorded _ h
  have hran := records_recorded (fun answer => [Event.ran (c.fillTest className test) answer]) hrun
  cases answer with
  | error f =>
    refine ⟨.error f, s₃, (hsilent hstart).bind hstart ((hsilent hbefore).bind hbefore
      (hran.bind hrun (records_pure _))), Or.inl ⟨f, rfl, ?_⟩⟩
    rw [runTest, run_bind_eq hstart, run_bind_eq hbefore, run_bind_eq hrun]
    rfl
  | ok r =>
    obtain ⟨⟨after, s₄⟩, hafter⟩ : ∃ r, w.consumed.run s₃ = r := ⟨_, rfl⟩
    obtain ⟨⟨finish, s₅⟩, hfinish⟩ : ∃ r, w.sample.run s₄ = r := ⟨_, rfl⟩
    refine ⟨.ok r, s₅, (hsilent hstart).bind hstart ((hsilent hbefore).bind hbefore (hran.bind hrun
      ((hsilent hafter).bind hafter ((hsilent hfinish).bind hfinish (records_pure _))))),
      Or.inr ⟨r, .between before after (w.energy start finish), rfl, ?_⟩⟩
    rw [runTest, run_bind_eq hstart, run_bind_eq hbefore, run_bind_eq hrun, run_bind_eq hafter,
      run_bind_eq hfinish]
    rfl

/-- The commands of all tests in order, each of them with its result. -/
def testEvents (tests : List String) (results : List CommandResult) : List Event :=
  (tests.zip results).map fun (test, r) => .ran (c.fillTest className test) (.ok r)

/-- All tests are run in order, whatever becomes of each, if their commands can be started and end in
time. -/
theorem runTests_records (tests : List String) (s : ω) : ∃ events answer s',
    Records (w.runTests c className tests) (w.watched.runTests c className tests) s events ∧
    (w.runTests c className tests).run s = (answer, s') ∧
    (events.all Event.succeeds = true → ∃ results reports, results.length = tests.length ∧
      events = testEvents c className tests results ∧ answer = .ok reports ∧
      List.Forall₂ (fun run t => TestReport.Tells t c.skipStatus run.1 run.2) (tests.zip results)
        reports) := by
  -- The induction goes on from whatever state the test before leaves; a command that cannot be started
  -- ends it, and such a log is none of successes.
  induction tests generalizing s with
  | nil => exact ⟨[], .ok [], s, records_pure _, rfl, fun _ => ⟨[], [], rfl, rfl, rfl, .nil⟩⟩
  | cons test tests ih =>
    obtain ⟨answer, s₁, hone, ⟨f, rfl, hrun⟩ | ⟨r, usage, rfl, hrun⟩⟩ :=
      w.runTest_records c className test s
    · refine ⟨_, .error f, s₁, hone.bind hrun (records_pure _), ?_, fun h => absurd h ?_⟩
      · rw [runTests, run_bind_eq hrun]
        rfl
      · exact Bool.false_ne_true
    · obtain ⟨events, answer, s₂, hrest, hruns, hall⟩ := ih s₁
      cases answer with
      | error f =>
        refine ⟨_, .error f, s₂, hone.bind hrun (hrest.bind hruns (records_pure _)), ?_, fun h => ?_⟩
        · rw [runTests, run_bind_eq hrun, run_bind_eq hruns]
          rfl
        · rw [List.append_nil] at h
          obtain ⟨_, _, _, _, hanswer, _⟩ := hall (Bool.and_eq_true_iff.mp h).2
          cases hanswer
      | ok reports =>
        refine ⟨_, .ok (r.report c test usage :: reports), s₂,
          hone.bind hrun (hrest.bind hruns (records_pure _)), ?_, fun h => ?_⟩
        · rw [runTests, run_bind_eq hrun, run_bind_eq hruns]
          rfl
        · rw [List.append_nil] at h
          obtain ⟨hone, hrest⟩ := Bool.and_eq_true_iff.mp h
          obtain ⟨results, _, hlength, hevents, hanswer, htold⟩ := hall hrest
          cases hanswer
          have htime : r.timedOut = false := Bool.not_eq_true' _ ▸ hone
          refine ⟨r :: results, _, congrArg (· + 1) hlength, ?_, rfl,
            .cons (r.tells_report htime c test usage) htold⟩
          rw [hevents, List.append_nil]
          rfl

/-- The verdict on a candidate after the events of its evaluation: it was compiled after it was put in its
place, and only if that worked, the tests were run. -/
inductive Judged (source : String) (tests : List String) : List Event → Verdict → Prop
  | rejected {compiled} : compiled.status ≠ some 0 →
      Judged source tests
        [.placed source (.ok ()), .ran (c.fill c.compileCommand className) (.ok compiled)]
        ((Verdict.compileFailure compiled.printed).withSource source)
  | tested {compiled results reports} : compiled.status = some 0 → results.length = tests.length →
      List.Forall₂ (fun run t => TestReport.Tells t c.skipStatus run.1 run.2) (tests.zip results)
        reports →
      Judged source tests
        (.placed source (.ok ()) :: .ran (c.fill c.compileCommand className) (.ok compiled) ::
          testEvents c className tests results)
        ((Verdict.ofTests reports).withSource source)

/-- What follows once the compile command has ended. -/
def conclude (source : String) (tests : List String) (compiled : CommandResult) :
    StateM ω (Except Failure Verdict) := do
  if compiled.succeeded then
    match ← w.runTests c className tests with
    | .error f => return .error f
    | .ok reports => return .ok ((Verdict.ofTests reports).withSource source)
  else return .ok ((Verdict.compileFailure compiled.diagnostic).withSource source)

theorem conclude_records (source : String) (tests : List String) (compiled : CommandResult) (s : ω) :
    ∃ events answer s', Records (w.conclude c className source tests compiled)
        (w.watched.conclude c className source tests compiled) s events ∧
      (w.conclude c className source tests compiled).run s = (answer, s') ∧
      (compiled.timedOut = false → events.all Event.succeeds = true → ∃ v, answer = .ok v ∧
        Judged c className source tests
          (.placed source (.ok ()) :: .ran (c.fill c.compileCommand className) (.ok compiled) :: events)
          v) := by
  unfold conclude
  cases hcompiled : compiled.succeeded with
  | false =>
    refine ⟨[], _, s, records_pure _, rfl, fun htime _ => ⟨_, rfl, ?_⟩⟩
    rw [CommandResult.diagnostic_eq htime]
    exact .rejected fun hzero => ne_true_of_eq_false hcompiled
      ((CommandResult.succeeded_iff htime).mpr hzero)
  | true =>
    obtain ⟨events, answer, s', htests, hruns, hall⟩ := w.runTests_records c className tests s
    cases answer with
    | error f =>
      refine ⟨_, .error f, s', htests.bind hruns (records_pure _), run_bind_eq hruns, fun _ h => ?_⟩
      rw [List.append_nil] at h
      obtain ⟨_, _, _, _, hanswer, _⟩ := hall h
      cases hanswer
    | ok reports =>
      refine ⟨_, .ok ((Verdict.ofTests reports).withSource source), s',
        htests.bind hruns (records_pure _), run_bind_eq hruns, fun htime h => ?_⟩
      rw [List.append_nil] at h ⊢
      obtain ⟨results, _, hlength, rfl, hanswer, htold⟩ := hall h
      cases hanswer
      exact ⟨_, rfl, .tested ((CommandResult.succeeded_iff htime).mp hcompiled) hlength htold⟩

theorem harness_records (source : String) (tests : List String) (s : ω) : ∃ events answer s',
    Records (w.harness c className source tests) (w.watched.harness c className source tests) s
      events ∧
    (w.harness c className source tests).run s = (answer, s') ∧
    (events.all Event.succeeds = true →
      ∃ v, answer = .ok v ∧ Judged c className source tests events v) := by
  obtain ⟨⟨placed, s₁⟩, hplace⟩ : ∃ r, (w.place source).run s = r := ⟨_, rfl⟩
  have hplaced := records_recorded (fun answer => [Event.placed source answer]) hplace
  cases placed with
  | error f =>
    exact ⟨_, .error f, s₁, hplaced.bind hplace (records_pure _), run_bind_eq hplace,
      fun h => absurd h Bool.false_ne_true⟩
  | ok =>
    obtain ⟨⟨compiled, s₂⟩, hcompile⟩ :
        ∃ r, (w.run (c.fill c.compileCommand className)).run s₁ = r := ⟨_, rfl⟩
    have hcompiled := records_recorded
      (fun answer => [Event.ran (c.fill c.compileCommand className) answer]) hcompile
    cases compiled with
    | error f =>
      exact ⟨_, .error f, s₂, hplaced.bind hplace (hcompiled.bind hcompile (records_pure _)),
        (run_bind_eq hplace).trans (run_bind_eq hcompile), fun h => absurd h Bool.false_ne_true⟩
    | ok compiled =>
      obtain ⟨events, answer, s₃, hconclude, hrun, hall⟩ :=
        w.conclude_records c className source tests compiled s₂
      refine ⟨_, answer, s₃, hplaced.bind hplace (hcompiled.bind hcompile hconclude),
        ((run_bind_eq hplace).trans (run_bind_eq hcompile)).trans hrun, fun h => ?_⟩
      obtain ⟨hintime, hrest⟩ := Bool.and_eq_true_iff.mp (Bool.and_eq_true_iff.mp h).2
      exact hall (Bool.not_eq_true' _ ▸ hintime) hrest

variable {w c className} {source : String} {tests : List String} {s s' : ω} {events : List Event}
  {answer : Except Failure Verdict}

/-- The verdict of a harness whose commands can all be started and end in time. The candidate is put in its place before
the first command. If the compile command ends with anything but 0, no test is run and the verdict says
what it printed. Otherwise each test is run once, in order, and reported: it passed if its command ended
with 0 or the status for skipped tests, and if it failed there is a text that says why. The verdict is a
success if all tests passed, and otherwise a failure with the texts of the failed tests. -/
theorem harness_verdict
    (hrun : (w.watched.harness c className source tests).run (s, []) = (answer, (s', events)))
    (hstarted : events.all Event.succeeds = true) :
    (w.harness c className source tests).run s = (answer, s') ∧ ∃ compiled v, answer = .ok v ∧
      ((compiled.status ≠ some 0 ∧
          events = [.placed source (.ok ()), .ran (c.fill c.compileCommand className) (.ok compiled)] ∧
          v.tests = [] ∧ v.outcome = .compileError ∧ v.diagnostic = some compiled.printed) ∨
        (compiled.status = some 0 ∧ ∃ results, results.length = tests.length ∧
          events = .placed source (.ok ()) ::
            .ran (c.fill c.compileCommand className) (.ok compiled) :: testEvents c className tests results ∧
          List.Forall₂ (fun run t => TestReport.Tells t c.skipStatus run.1 run.2) (tests.zip results)
            v.tests ∧
          ((v.outcome = .success ∧ ∀ t ∈ v.tests, t.passed = true) ∨
            (v.outcome = .testFailure ∧ (∃ t ∈ v.tests, t.passed = false) ∧
              v.diagnostic = some ("\n".intercalate v.exceptions))))) := by
  obtain ⟨events', answer', s₁, hrecords, hplain, hjudged⟩ :=
    w.harness_records c className source tests s
  have hboth := hrecords []
  rw [hrun, hplain, List.nil_append] at hboth
  obtain ⟨rfl, hworld⟩ := Prod.mk.inj hboth
  obtain ⟨rfl, rfl⟩ := Prod.mk.inj hworld
  obtain ⟨v, hanswer, hv⟩ := hjudged hstarted
  refine ⟨hplain, ?_⟩
  cases hv with
  | @rejected compiled hstatus =>
    exact ⟨compiled, _, hanswer, Or.inl ⟨hstatus, rfl, rfl, rfl, rfl⟩⟩
  | @tested compiled results reports hstatus hlength htold =>
    refine ⟨compiled, _, hanswer, Or.inr ⟨hstatus, results, hlength, rfl, htold, ?_⟩⟩
    exact Verdict.ofTests_cases reports source rfl (TestReport.isSome_of_tells htold)

/-- One test passes, one is skipped and one ends after a signal without a word. All three are run, and the
failure says which one it was. -/
theorem harness_verdict_signal :
    let shell (command : String) : CommandResult :=
      if command = "run b" then ⟨some 77, "no display\n", "", false⟩
      else if command = "run c" then ⟨none, "\n", "", false⟩
      else ⟨some 0, "", "", false⟩
    let w : Workshop Unit := ⟨fun _ => pure (.ok ()), fun command => pure (.ok (shell command)),
      pure ⟨0, 0, 0⟩, pure (.ok ⟨0, 0⟩), fun _ _ => 0⟩
    let c : CommandConfig :=
      ⟨"work", "K.java", "compile \x7bsource\x7d", "run \x7btest\x7d", some 77, none⟩
    ∃ v events,
      (w.watched.harness c "K" "class K \x7b \x7d" ["a", "b", "c"]).run ((), []) = (.ok v, ((), events)) ∧
      events.all Event.succeeds = true ∧ events.length = 5 ∧ v.outcome = .testFailure ∧
      v.exceptions = ["c terminated by signal"] ∧ v.diagnostic = some "c terminated by signal" := by
  intro shell w c
  obtain ⟨⟨answer, s', events⟩, hrun⟩ : ∃ r,
      (w.watched.harness c "K" "class K \x7b \x7d" ["a", "b", "c"]).run ((), []) = r := ⟨_, rfl⟩
  have hstarted : ((w.watched.harness c "K" "class K \x7b \x7d" ["a", "b", "c"]).run
      ((), [])).2.2.all Event.succeeds = true := by decide +kernel
  have houtcome : ((w.watched.harness c "K" "class K \x7b \x7d" ["a", "b", "c"]).run
      ((), [])).1.toOption.map Verdict.outcome = some .testFailure := by decide +kernel
  have hexceptions : ((w.watched.harness c "K" "class K \x7b \x7d" ["a", "b", "c"]).run
      ((), [])).1.toOption.map Verdict.exceptions = some ["c terminated by signal"] := by decide +kernel
  rw [hrun] at hstarted houtcome hexceptions
  obtain ⟨_, compiled, v, rfl, hverdict⟩ := harness_verdict hrun hstarted
  replace houtcome : v.outcome = .testFailure := Option.some.inj houtcome
  replace hexceptions : v.exceptions = ["c terminated by signal"] := Option.some.inj hexceptions
  rcases hverdict with ⟨_, _, _, hcompile, _⟩ | ⟨_, results, hlength, rfl, _, hsuccess | hfailure⟩
  · rw [houtcome] at hcompile
    cases hcompile
  · rw [houtcome] at hsuccess
    cases hsuccess.1
  · refine ⟨v, _, hrun, hstarted, ?_, houtcome, hexceptions, ?_⟩
    · simp [testEvents, hlength]
    · rw [hfailure.2.2, hexceptions]
      rfl

end Workshop

end PatchSearch
