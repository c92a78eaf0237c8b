import PatchSearch.Proofs.Search.Honesty
import PatchSearch.Proofs.Search.Applicable
import PatchSearch.Proofs.Search.Offers

namespace PatchSearch

variable {ω : Type}

namespace Feedback

/-- Only the last entries decide which are the last ones after one more. -/
theorem keepLast_concat (entries : List String) (x : String) :
    keepLast (keepLast entries ++ [x]) = keepLast (entries ++ [x]) := by
  have hlength : (keepLast entries).length = min capacity entries.length := by
    rw [keepLast, List.length_drop]
    omega
  by_cases hfull : entries.length < capacity
  · have hall : keepLast entries = entries := by
      rw [keepLast, Nat.sub_eq_zero_of_le (Nat.le_of_lt hfull), List.drop_zero]
    rw [hall]
  · have hone : (keepLast entries ++ [x]).length - capacity = 1 := by
      rw [List.length_append, hlength, List.length_singleton]
      omega
    have hnext : (entries ++ [x]).length - capacity = entries.length - capacity + 1 := by
      rw [List.length_append, List.length_singleton]
      omega
    rw [keepLast, hone, keepLast, keepLast, hnext, ← List.drop_drop,
      List.drop_append_of_le_length (Nat.sub_le _ _)]

theorem keepLast_map {α : Type} (f : α → String) (xs : List α) :
    keepLast (xs.map f) = (xs.drop (xs.length - capacity)).map f := by
  rw [keepLast, List.length_map, List.map_drop]

end Feedback

/-- The evaluations that the backend is told about: those of patches that apply. -/
def Trial.told (trials : List (Trial ω)) : List (Trial ω) :=
  trials.filter fun t => t.verdict.outcome ≠ .invalidPatch

theorem Trial.told_concat (trials : List (Trial ω)) (t : Trial ω) :
    told (trials ++ [t]) =
      if t.verdict.outcome = .invalidPatch then told trials else told trials ++ [t] := by
  by_cases h : t.verdict.outcome = .invalidPatch
  · simp [told, h]
  · simp [told, h]

/-- The last of the evaluations that the backend is told about, the oldest first. -/
def Trial.recent (trials : List (Trial ω)) : List (Trial ω) :=
  (Trial.told trials).drop ((Trial.told trials).length - Feedback.capacity)

theorem Trial.recent_singleton {t : Trial ω} (h : t.verdict.outcome ≠ .invalidPatch) :
    recent [t] = [t] := by
  have htold : told [t] = [t] := by
    rw [← List.nil_append [t], told_concat, if_neg h]
    rfl
  rw [recent, htold]
  rfl

theorem Trial.length_recent (trials : List (Trial ω)) :
    (recent trials).length = min Feedback.capacity (told trials).length := by
  rw [recent, List.length_drop]
  omega

/-- Unless the patch is invalid, a verdict has the program that the harness was handed. -/
theorem Evaluator.logs_source {e : Evaluator ω} {p : Patch} {w : ω}
    (h : ((e.evaluate p).run w).1.outcome ≠ .invalidPatch) :
    ∃ text, ((e.evaluate p).run w).1.source = some text ∧
      Logs (e.evaluate p) (e.logged.evaluate p) w [text] := by
  rcases e.evaluate_cases p w with ⟨f, _, hv⟩ | ⟨t, ht, hv⟩
  · rw [hv] at h
    exact absurd rfl h
  · have hlogs : Logs (e.evaluate p) (e.logged.evaluate p) w [t.render] := by
      rw [← sources_of_ok ht]
      exact logs_evaluate p
    rcases hv with ⟨f, hv⟩ | ⟨v, _, hv⟩
    · exact ⟨t.render, by rw [hv]; rfl, hlogs⟩
    · exact ⟨t.render, by rw [hv]; rfl, hlogs⟩

/-- What is remembered of an evaluation: if the candidate did not compile or did not pass its tests,
the program that the harness was handed, and what the compiler or the failed tests said. -/
def Evaluator.Remembers (e : Evaluator ω) (t : Trial ω) (failure : Option FailedCandidate) : Prop :=
  (failure.isSome = true ↔ t.verdict.outcome = .compileError ∨ t.verdict.outcome = .testFailure) ∧
    ∀ f ∈ failure, Logs (e.evaluate t.patch) (e.logged.evaluate t.patch) t.world [f.source] ∧
      (t.verdict.outcome = .compileError → f.diagnostic = t.verdict.compileError.getD "") ∧
      (t.verdict.outcome = .testFailure → f.diagnostic = "\n".intercalate
        ((t.verdict.tests.filter (!·.passed)).map fun r => r.exception.getD "unknown failure"))

/-- What a local search remembers of a verdict. -/
def Verdict.failed? (v : Verdict) : Option FailedCandidate :=
  if v.outcome = .compileError ∨ v.outcome = .testFailure then
    some ⟨v.source.getD "", v.diagnostic.getD ""⟩
  else none

theorem Evaluator.remembers_trial (e : Evaluator ω) (p : Patch) (w : ω) (r : StepRecord) :
    e.Remembers (e.trial p w r) (e.trial p w r).verdict.failed? := by
  unfold Verdict.failed?
  split
  next hfailed =>
    have happlies : (e.trial p w r).verdict.outcome ≠ .invalidPatch := by
      rcases hfailed with ho | ho
      · rw [ho]
        simp
      · rw [ho]
        simp
    obtain ⟨text, hsource, hlogs⟩ := e.logs_source happlies
    refine ⟨iff_of_true rfl hfailed, fun f hf => ?_⟩
    cases hf
    refine ⟨?_, fun ho => ?_, fun ho => ?_⟩
    · have htext : (e.trial p w r).verdict.source.getD "" = text := by
        rw [trial, hsource]
        rfl
      rw [htext]
      exact hlogs
    · rw [Verdict.diagnostic, ho]
      rfl
    · rw [Verdict.diagnostic, ho]
      rfl
  next hfailed =>
    exact ⟨iff_of_false Bool.false_ne_true hfailed, fun f hf => absurd hf (Option.not_mem_none f)⟩

/-- A coin is tossed only for a patch with edits, so the edit that is drawn is one of them. -/
theorem Patch.below_lt_of_coin {p : Patch} {g g' : Random} {likely : Float}
    (h : (if p.isEmpty then (false, g) else g.coin likely) = (true, g')) :
    (g'.below p.size).1 < p.edits.length := by
  refine g'.below_lt (List.length_pos_iff.mpr fun hnone => ?_)
  have hempty : p.isEmpty = true := List.isEmpty_iff.mpr hnone
  rw [if_pos hempty] at h
  cases h

section Prompts

/-- The backend that writes down its prompts. -/
def Backend.logged (b : Backend ω) : Backend (Logged ω) := fun prompt => do
  modify fun w => (w.1, w.2 ++ [prompt])
  aside (b prompt)

def Generator.overheard (g : Generator ω) : Generator (Logged ω) :=
  ⟨g.backend.logged, g.project⟩

theorem GeneratedEdit.prompt_ofResponse (destination : Nat) (prompt response : String) :
    (ofResponse destination prompt response).prompt = prompt := by
  unfold ofResponse
  dsimp only
  cases hf : List.findSome? _ (Fence.blocksOf response) with
  | none => rfl
  | some e =>
    obtain ⟨block, _, hb⟩ := List.exists_of_findSome?_eq_some hf
    split at hb
    next =>
      cases hb
      rfl
    next => cases hb

theorem SourceTree.exists_text_of_drawn {t : SourceTree} {id : Nat} {inMethod : Bool}
    (h : id ∈ t.statementIds inMethod) : ∃ text, t.nodeText? id = some text := by
  obtain ⟨m, hm, hid, _⟩ := exists_part_of_drawn h
  have hsome : (t.root.find? id).isSome := by
    rw [Node.find?_isSome_iff, ← Node.map_id_parts, ← hid]
    exact List.mem_map_of_mem hm
  obtain ⟨n, hn⟩ := Option.isSome_iff_exists.mp hsome
  exact ⟨n.render, by rw [nodeText?, node?, hn]; rfl⟩

/-- A generator sends one prompt for the edit that it gives, about a statement that was drawn, and none
if there are no statements. -/
theorem Generator.logs_overheard (g : Generator ω) (t : SourceTree) (rng : Random)
    (template : Template) (known : Tag.Values) (w : ω) :
    ∃ prompts, Logs (g.generate t rng template known) (g.overheard.generate t rng template known) w
        prompts ∧
      match ((g.generate t rng template known).run w).1.1 with
      | none => prompts = []
      | some e => e.destination ∈ t.statementIds true ∧
          e.prompt = template.render (g.values t e.destination known) ∧ prompts = [e.prompt] := by
  have hvalues : ∀ id, g.overheard.values t id known = g.values t id known := fun _ => rfl
  unfold generate
  split
  next => exact ⟨[], logs_pure _, rfl⟩
  next destination rng₁ hd =>
    have hm : destination ∈ t.statementIds true := Random.mem_of_choose hd
    dsimp only
    rw [hvalues]
    let prompt := template.render (g.values t destination known)
    have hsent : Logs (g.backend prompt) (g.overheard.backend prompt) w [prompt] := fun _ => rfl
    refine ⟨[prompt], hsent.bind_silent ?_, ?_⟩
    · split
      next => exact logs_pure _
      next => exact logs_pure _
    · rw [StateT.run_bind]
      obtain ⟨⟨answer, w'⟩, h⟩ : ∃ r, (g.backend prompt).run w = r := ⟨_, rfl⟩
      rw [h]
      cases answer with
      | error => exact ⟨hm, rfl, rfl⟩
      | ok response =>
        obtain ⟨hdestination, _⟩ := GeneratedEdit.ofResponse_spec destination prompt response
        have hprompt := GeneratedEdit.prompt_ofResponse destination prompt response
        change (GeneratedEdit.ofResponse destination prompt response).destination ∈ _ ∧ _
        rw [hdestination, hprompt]
        exact ⟨hm, rfl, rfl⟩

end Prompts

namespace LocalSearch

/-- The same search with a backend that writes down its prompts. -/
def overheard (s : LocalSearch ω) : LocalSearch (Logged ω) :=
  ⟨s.evaluator.beside, s.generator.overheard, s.regular, s.afterFailure, s.config⟩

variable {s : LocalSearch ω} {sink : Sink ω} {st st' st₀ : State} {w w' w₀ : ω}
  {trials : List (Trial ω)}

/-- How a step describes its candidate. -/
def description (s : LocalSearch ω) (st : State) (w : ω) : String :=
  ((s.neighbour st).run w).1.2.1

/-- What a step tries beside the best patch so far, how it describes that, and the prompts that it sends:
it drops an edit, or it asks the backend about a statement of the best program, with the template for
failures and what is known of the last candidate if that failed, and with the regular one if not. There may
be no statement to ask about. -/
inductive Tries (s : LocalSearch ω) (st : State) (context : String) :
    Patch → String → List String → Prop
  | remove {i removed} : st.incumbent.edits[i]? = some removed →
      Tries s st context (st.incumbent.eraseAt i)
        ("remove edit " ++ toString i ++ ": " ++ removed.describe) []
  | nothing : Tries s st context st.incumbent "no statement to rewrite" []
  | ask {u e text} {values : Tag.Values} : st.incumbent.apply s.evaluator.base = .ok u →
      e.destination ∈ u.statementIds true → u.nodeText? e.destination = some text →
      values .context = context → values .destination = text →
      (∀ f ∈ st.failure, values .previous = f.source ∧ values .error = f.diagnostic) →
      Tries s st context (st.incumbent.add (.generated e)) e.describe
        [(if st.failure.isSome then s.afterFailure else s.regular).render values]

/-- After a failure a prompt tells about it, in the template for failures. -/
theorem Tries.of_failure {context description : String} {p : Patch} {prompts : List String}
    {f : FailedCandidate} (h : s.Tries st context p description prompts) (hf : st.failure = some f)
    (hone : prompts.length = 1) :
    ∃ (u : SourceTree) (id : Nat) (values : Tag.Values), st.incumbent.apply s.evaluator.base = .ok u ∧
      id ∈ u.statementIds true ∧ values .context = context ∧ values .previous = f.source ∧
      values .error = f.diagnostic ∧ u.nodeText? id = some (values .destination) ∧
      prompts = [s.afterFailure.render values] := by
  cases h with
  | remove => cases hone
  | nothing => cases hone
  | ask hu hm htext hcontext hdestination hvalues =>
    obtain ⟨hprevious, herror⟩ := hvalues f hf
    rw [← hdestination] at htext
    refine ⟨_, _, _, hu, hm, hcontext, hprevious, herror, htext, ?_⟩
    rw [hf, Option.isSome_some, if_pos rfl]

theorem prompting_spec (s : LocalSearch ω) (st : State) :
    (s.prompting st).1 = (if st.failure.isSome then s.afterFailure else s.regular) ∧
      (s.prompting st).2 .context = st.feedback.render ∧
      ∀ f ∈ st.failure, (s.prompting st).2 .previous = f.source ∧
        (s.prompting st).2 .error = f.diagnostic := by
  unfold prompting
  cases st.failure with
  | none => exact ⟨rfl, rfl, fun f hf => absurd hf (Option.not_mem_none f)⟩
  | some f =>
    refine ⟨rfl, rfl, fun f' hf' => ?_⟩
    cases hf'
    exact ⟨rfl, rfl⟩

theorem tries_of_prompting {u : SourceTree} {e : GeneratedEdit}
    (hu : st.incumbent.apply s.evaluator.base = .ok u) (hm : e.destination ∈ u.statementIds true) :
    s.Tries st st.feedback.render (st.incumbent.add (.generated e)) e.describe
      [(s.prompting st).1.render (s.generator.values u e.destination (s.prompting st).2)] := by
  obtain ⟨text, htext⟩ := SourceTree.exists_text_of_drawn hm
  obtain ⟨htemplate, hcontext, hfailure⟩ := s.prompting_spec st
  have hdestination : s.generator.values u e.destination (s.prompting st).2 .destination = text := by
    simp [Generator.values, Tag.Values.set, htext]
  rw [htemplate]
  exact .ask hu hm htext hcontext hdestination hfailure

theorem tries_of_removal (context : String) {i : Nat} (hi : i < st.incumbent.edits.length) :
    s.Tries st context (st.incumbent.eraseAt i)
      ("remove edit " ++ toString i ++ ": " ++ (st.incumbent.edits[i]?.map Edit.describe).getD "") [] := by
  have hremoved := List.getElem?_eq_getElem hi
  rw [hremoved]
  exact .remove hremoved

theorem logs_neighbour_overheard {u : SourceTree} (hu : st.incumbent.apply s.evaluator.base = .ok u)
    (w : ω) : ∃ prompts, Logs (s.neighbour st) (s.overheard.neighbour st) w prompts ∧
      s.Tries st st.feedback.render (s.candidate st w) (s.description st w) prompts := by
  have hprompting : s.overheard.prompting st = s.prompting st := rfl
  have hconfig : s.overheard.config = s.config := rfl
  have hbase : s.overheard.evaluator.base = s.evaluator.base := rfl
  have hcurrent : Mutator.current st.incumbent s.evaluator.base = u := by
    rw [Mutator.current, hu]
  unfold candidate description neighbour
  rw [hprompting, hconfig, hbase]
  split
  next template known hknown =>
    extract_lets best
    split
    next simplify rng hsimplify =>
      split
      next hremove =>
        split
        next i rng' hi =>
          obtain rfl : simplify = true := hremove
          have hlt := Patch.below_lt_of_coin hsimplify
          rw [hi] at hlt
          exact ⟨[], logs_pure _, tries_of_removal _ hlt⟩
      next =>
        obtain ⟨prompts, hlogs, hprompts⟩ := s.generator.logs_overheard
          (Mutator.current best s.evaluator.base) rng template known w
        refine ⟨prompts, hlogs.bind_silent ?_, ?_⟩
        · split
          next => exact logs_pure _
          next => exact logs_pure _
        · rw [StateT.run_bind]
          obtain ⟨⟨⟨edit?, rng'⟩, w'⟩, h⟩ : ∃ r, (s.generator.generate
            (Mutator.current best s.evaluator.base) rng template known).run w = r := ⟨_, rfl⟩
          rw [h] at hprompts ⊢
          cases edit? with
          | none =>
            obtain rfl : prompts = [] := hprompts
            exact .nothing
          | some e =>
            obtain ⟨hm, hprompt, rfl⟩ := hprompts
            rw [hcurrent] at hm hprompt
            have htries := tries_of_prompting hu hm
            rw [hknown, ← hprompt] at htries
            exact htries

theorem logs_step_overheard (s : LocalSearch ω) (sink : Sink ω) (number : Nat) {prompts : List String}
    (h : Logs (s.neighbour st) (s.overheard.neighbour st) w prompts) :
    Logs (s.step sink number st) (s.overheard.step sink.logged number st) w prompts := by
  have hevaluate : ∀ p w, Logs (s.evaluator.evaluate p) (s.overheard.evaluator.evaluate p) w [] := by
    intro p w
    have heq : s.overheard.evaluator.evaluate p = aside (s.evaluator.evaluate p) :=
      s.evaluator.evaluate_beside p
    rw [heq]
    exact logs_aside
  refine h.bind_silent ((hevaluate _ _).silent_bind ?_)
  exact (sink.logs_offer _ _).silent_bind (logs_pure _)

/-- What the program before any edit measures in a world. -/
def baselineMeasure (s : LocalSearch ω) (w : ω) : Float :=
  s.evaluator.measure (s.evaluator.baseline.run w).1

theorem measureBaseline_telling (h : (s.measureBaseline sink st).run w = (st', w')) :
    st'.failure = none ∧ st'.feedback = ⟨some (s.baselineMeasure w), []⟩ := by
  cases h
  exact ⟨rfl, rfl⟩

theorem step_records {number : Nat} {r : StepRecord}
    (h : (s.step sink number st).run w = ((r, st'), w')) :
    r.metric = s.evaluator.measure (s.trial st w r).verdict ∧
      ∃ g, st' = s.conclude (s.candidate st w) r.description (s.trial st w r).verdict
        { st with rng := g } := by
  cases h
  exact ⟨rfl, _, rfl⟩

/-- A verdict changes what is remembered, and a better candidate takes the place of the best patch. -/
theorem adopt_cases (p : Patch) (v : Verdict) (st : State) :
    (s.adopt p v st).2 = { st with failure := v.failed? } ∨
      (s.adopt p v st).2 = { st with
        failure := v.failed?, incumbent := p, fitness := s.evaluator.measure v,
        accepted := st.accepted + 1 } := by
  unfold adopt Verdict.failed?
  cases v.outcome with
  | invalidPatch => exact Or.inl rfl
  | compileError => exact Or.inl rfl
  | testFailure => exact Or.inl rfl
  | success =>
    dsimp only
    split
    next => exact Or.inr rfl
    next => exact Or.inl rfl

theorem conclude_failure (p : Patch) (description : String) (v : Verdict) (st : State) :
    (s.conclude p description v st).failure = v.failed? := by
  have hadopt : (s.adopt p v st).2.failure = v.failed? := by
    rcases s.adopt_cases p v st with h | h
    · rw [h]
    · rw [h]
  rw [← hadopt]
  unfold conclude
  split
  next => rfl
  next => rfl

theorem conclude_feedback (p : Patch) (description : String) (v : Verdict) (st : State) :
    (s.conclude p description v st).feedback =
      if v.outcome = .invalidPatch then st.feedback
      else st.feedback.push description (s.evaluator.measure v) := by
  have hadopt : (s.adopt p v st).2.feedback = st.feedback := by
    rcases s.adopt_cases p v st with h | h
    · rw [h]
    · rw [h]
  rw [← hadopt]
  unfold conclude
  split
  next => rfl
  next => rfl

theorem Traces.feedback (h : s.Traces sink st₀ w₀ trials st w) :
    st.feedback.baseline = some (s.baselineMeasure w₀) ∧
      st.feedback.entries = (Trial.recent trials).map fun t =>
        "the following edit: " ++ t.record.description ++ " had fitness " ++
          Decimal.display t.record.metric := by
  rw [Trial.recent, ← Feedback.keepLast_map]
  induction h with
  | start h =>
    rw [(measureBaseline_telling h).2]
    exact ⟨rfl, rfl⟩
  | @next trials st w number r st' w' _ h ih =>
    obtain ⟨hmetric, g, rfl⟩ := step_records h
    rw [conclude_feedback, Trial.told_concat]
    split
    next => exact ih
    next =>
      rw [List.map_append, List.map_singleton, ← Feedback.keepLast_concat, ← ih.2]
      refine ⟨ih.1, ?_⟩
      rw [← hmetric]
      rfl

theorem Traces.render (h : s.Traces sink st₀ w₀ trials st w) :
    (st.feedback.entries = [] → st.feedback.render = "") ∧
      (st.feedback.entries ≠ [] → st.feedback.render =
        "These are edits you suggested previously and the fitness each one measured " ++
        "(lower is better). The original program had fitness " ++
        Decimal.display (s.baselineMeasure w₀) ++ " and we want to do better.\n" ++
        String.join (st.feedback.entries.map (· ++ "\n"))) := by
  refine ⟨fun hnone => ?_, fun hsome => ?_⟩
  · rw [Feedback.render, hnone]
    rfl
  · have hpreamble : "These are edits you suggested previously and the fitness each one measured " ++
        "(lower is better). The original program had fitness " =
        "These are edits you suggested previously and the fitness each one " ++
          "measured (lower is better)." ++ " The original program had fitness " := by
      decide
    rw [Feedback.render, if_neg (by simpa using hsome), h.feedback.1, hpreamble]
    simp only [String.append_assoc]
    rfl

theorem step_remembers {number : Nat} {r : StepRecord}
    (h : (s.step sink number st).run w = ((r, st'), w')) :
    s.evaluator.Remembers (s.trial st w r) st'.failure := by
  obtain ⟨_, g, rfl⟩ := step_records h
  rw [conclude_failure]
  exact s.evaluator.remembers_trial _ _ r

/-- At every step of a run the backend is told what became of the steps before: the last candidate is
remembered if it failed; the context has a line with its description and its measure for each of the last
five candidates that applied, and is empty as long as there is none; and if the step asks the backend, then
with that context, and with the template for failures if and only if the last candidate failed. -/
theorem feedback_protocol (h : s.Traces sink st₀ w₀ trials st w) :
    (trials = [] → st.failure = none) ∧
    (∀ earlier t, trials = earlier ++ [t] → s.evaluator.Remembers t st.failure) ∧
    (st.feedback.entries = (Trial.recent trials).map fun t =>
      "the following edit: " ++ t.record.description ++ " had fitness " ++
        Decimal.display t.record.metric) ∧
    Trial.recent trials <:+ Trial.told trials ∧
    (Trial.recent trials).length = min 5 (Trial.told trials).length ∧
    (∀ t ∈ trials, t.record.outcome = t.verdict.outcome ∧
      t.record.metric = s.evaluator.measure t.verdict) ∧
    ∃ context, (st.feedback.entries = [] → context = "") ∧
      (st.feedback.entries ≠ [] → context =
        "These are edits you suggested previously and the fitness each one measured " ++
        "(lower is better). The original program had fitness " ++
        Decimal.display (s.evaluator.measure (s.evaluator.baseline.run w₀).1) ++
        " and we want to do better.\n" ++ String.join (st.feedback.entries.map (· ++ "\n"))) ∧
      ∀ number, ∃ prompts, Logs (s.step sink number st) (s.overheard.step sink.logged number st) w
          prompts ∧
        s.Tries st context (s.candidate st w)
          ((s.step sink number st).run w).1.1.description prompts := by
  refine ⟨?_, ?_, h.feedback.2, List.drop_suffix _ _, Trial.length_recent trials, ?_,
    st.feedback.render, h.render.1, h.render.2, fun number => ?_⟩
  · intro hnone
    cases h with
    | start h => exact (measureBaseline_telling h).1
    | next => simp at hnone
  · intro earlier t hlast
    cases h with
    | start => simp at hlast
    | next _ h =>
      obtain ⟨_, hlast⟩ := List.append_inj' hlast rfl
      rw [← List.singleton_inj.mp hlast]
      exact step_remembers h
  · induction h with
    | start => exact fun t ht => absurd ht List.not_mem_nil
    | next _ h ih =>
      intro t ht
      rcases List.mem_append.mp ht with ht | ht
      · exact ih t ht
      · rw [List.mem_singleton.mp ht]
        exact ⟨(step_moves h).1, (step_records h).1⟩
  · obtain ⟨u, hu, _⟩ := h.honest
    obtain ⟨prompts, hlogs, htries⟩ := logs_neighbour_overheard hu w
    have hdescription :
        ((s.step sink number st).run w).1.1.description = s.description st w := rfl
    refine ⟨prompts, s.logs_step_overheard sink number hlogs, ?_⟩
    rw [hdescription]
    exact htries

/-- A suggestion does not compile; the next prompt tells what it measured, and has the program and the
words of the compiler. -/
theorem feedback_protocol_failed :
    let base := { SourceTree.ofItems [.block "class K" [.block "void run()" [.simple "a();"]]] with
      target := some 2 }
    let verdict (source : String) : Verdict :=
      if source = base.render then .ofTests [.pass "t" ⟨5, 0, 0, 0⟩] else .compileFailure "no f"
    let s : LocalSearch Unit := ⟨⟨.ofAnswers verdict, ⟨"K", "run", [], base⟩, .executionTime⟩,
      ⟨fun _ => pure (.ok "```\nf();\n```"), ""⟩, ⟨Tag.destination.token⟩,
      ⟨Tag.context.token ++ Tag.previous.token ++ Tag.error.token ++ ": " ++ Tag.destination.token⟩,
      .standard⟩
    let sink : Sink Unit := fun _ => pure true
    let source := "class K \x7b\n    void run() \x7b\n        f();\n    \x7d\n\x7d\n"
    let context :=
      "These are edits you suggested previously and the fitness each one measured " ++
      "(lower is better). The original program had fitness 5 and we want to do better.\n" ++
      "the following edit: llm-replace 3 -> f(); had fitness 0\n"
    let prompt := context ++ source ++ "no f: a();"
    ∃ (t : Trial Unit) (st : State) (w : Unit),
      s.Traces sink s.fresh () [t] st w ∧ st.failure = some ⟨source, "no f"⟩ ∧
      Logs (s.evaluator.evaluate t.patch) (s.evaluator.logged.evaluate t.patch) t.world [source] ∧
      st.feedback.entries = ["the following edit: llm-replace 3 -> f(); had fitness 0"] ∧
      Logs (s.step sink 2 st) (s.overheard.step sink.logged 2 st) w [prompt] ∧
      s.Tries st context (s.candidate st w) ((s.step sink 2 st).run w).1.1.description [prompt] := by
  intro base verdict s sink source context prompt
  let start := ((s.measureBaseline sink s.fresh).run ()).1
  have hstep : ∀ x, (s.step sink 1 start).run () = x →
      (s.trial start () x.1.1).verdict.outcome = .compileError ∧
      (s.trial start () x.1.1).verdict.compileError = some "no f" ∧
      x.1.1.description = "llm-replace 3 -> f();" ∧ Decimal.display x.1.1.metric = "0" ∧
      (∃ f ∈ x.1.2.failure, f.source = source) ∧
      (∃ u ∈ (x.1.2.incumbent.apply base).toOption,
        (u.statementIds true).map u.nodeText? = [some "a();"]) ∧
      ((s.overheard.step sink.logged 2 x.1.2).run ((), [])).2.2.length = 1 := by
    rintro _ rfl
    decide +kernel
  obtain ⟨⟨⟨r, st⟩, w⟩, hs⟩ : ∃ x, (s.step sink 1 start).run () = x := ⟨_, rfl⟩
  have hfacts := hstep _ hs
  dsimp only at hfacts
  obtain ⟨houtcome, herror, hdescription, hmetric, ⟨f, hf, hsource⟩, ⟨u, hu, htexts⟩, hone⟩ := hfacts
  have htrace : s.Traces sink s.fresh () [s.trial start () r] st w := .next (.start rfl) hs
  obtain ⟨_, hlast, hentries, _, _, _, context', _, hcontext, hprompts⟩ := feedback_protocol htrace
  obtain ⟨hlogs, hdiagnostic, _⟩ := (hlast [] _ rfl).2 f hf
  have hwords : f.diagnostic = "no f" := by
    rw [hdiagnostic houtcome, herror]
    rfl
  have hfailure : st.failure = some ⟨source, "no f"⟩ := by
    rw [← hsource, ← hwords]
    exact hf
  have hentry : st.feedback.entries = ["the following edit: llm-replace 3 -> f(); had fitness 0"] := by
    rw [hentries, Trial.recent_singleton (by rw [houtcome]; exact Outcome.noConfusion),
      List.map_singleton]
    change ["the following edit: " ++ r.description ++ " had fitness " ++ Decimal.display r.metric] = _
    rw [hdescription, hmetric]
    rfl
  have hbaseline : Decimal.display (s.evaluator.measure (s.evaluator.baseline.run ()).1) = "5" := by
    decide +kernel
  have htold : context' = context := by
    rw [hcontext (by rw [hentry]; exact List.cons_ne_nil _ _), hentry, hbaseline]
    rfl
  obtain ⟨prompts, hsent, htries⟩ := hprompts 2
  rw [show ((s.overheard.step sink.logged 2 st).run ((), [])).2.2 = prompts from
    congrArg (fun x => x.2.2) (hsent [])] at hone
  have hprompt : prompts = [prompt] := by
    obtain ⟨u', id, values, hu', hm, hcontext, hprevious, hdiagnosed, hdestination, hasked⟩ :=
      htries.of_failure hfailure hone
    obtain rfl : u = u' := Except.ok.inj ((ok_of_toOption hu).symm.trans hu')
    have hcall : values .destination = "a();" := by
      have hshown : some (values .destination) ∈ (u.statementIds true).map u.nodeText? :=
        List.mem_map.mpr ⟨id, hm, hdestination⟩
      rw [htexts, List.mem_singleton] at hshown
      exact Option.some.inj hshown
    have htags : s.afterFailure.tags = [.context, .previous, .error, .destination] := by
      decide +kernel
    rw [hasked, Template.render, htags]
    simp only [List.foldl, hcontext, htold, hprevious, hdiagnosed, hcall, Text.replaced,
      String.toList_ofList]
    refine congrArg (fun x => [x]) (String.toList_injective ?_)
    simp only [String.toList_ofList, String.toList_append, prompt, context, source]
    decide +kernel
  rw [hsource] at hlogs
  rw [htold, hprompt] at htries
  exact ⟨_, st, w, htrace, hfailure, hlogs, hentry, hprompt ▸ hsent, htries⟩

end LocalSearch

end PatchSearch
