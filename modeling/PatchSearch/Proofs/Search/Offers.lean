import PatchSearch.Proofs.Evaluation.Calls
import PatchSearch.Proofs.Search.Buffer
import PatchSearch.Proofs.Search.GeneticTrace
import PatchSearch.Proofs.Search.LocalTrace
import PatchSearch.Search.Storage

namespace PatchSearch

variable {ω τ α β : Type}

/-- A computation beside more state that it leaves alone, such as `aside` for a log. -/
def beside (x : StateM ω α) : StateM (ω × τ) α := fun w =>
  let (a, w') := x.run w.1
  (a, (w', w.2))

theorem beside_bind (x : StateM ω α) (f : α → StateM ω β) :
    (beside (x >>= f) : StateM (ω × τ) β) = beside x >>= fun a => beside (f a) :=
  rfl

theorem beside_bind_eq {x : StateM ω α} {f : α → StateM ω β} {g : α → StateM (ω × τ) β}
    (h : ∀ a, g a = beside (f a)) : beside x >>= g = beside (x >>= f) := by
  rw [beside_bind, funext h]

namespace Evaluator

def beside (e : Evaluator ω) : Evaluator (ω × τ) :=
  ⟨fun className source tests => PatchSearch.beside (e.harness className source tests), e.target,
    e.metric⟩

variable (e : Evaluator ω)

theorem judge_beside (source : String) :
    (e.beside : Evaluator (ω × τ)).judge source = PatchSearch.beside (e.judge source) :=
  beside_bind_eq fun answer => by cases answer <;> rfl

theorem evaluate_beside (p : Patch) :
    (e.beside : Evaluator (ω × τ)).evaluate p = PatchSearch.beside (e.evaluate p) := by
  have hbase : (e.beside : Evaluator (ω × τ)).base = e.base := rfl
  unfold evaluate
  rw [hbase]
  cases p.apply e.base with
  | error => rfl
  | ok t => exact e.judge_beside t.render

theorem sample_beside (p : Patch) (left taken : Nat) (total : Float) :
    (e.beside : Evaluator (ω × τ)).sample p left taken total =
      PatchSearch.beside (e.sample p left taken total) := by
  induction left generalizing taken total with
  | zero =>
    unfold sample
    rw [evaluate_beside]
    refine beside_bind_eq fun v => ?_
    cases v.isSuccess <;> rfl
  | succ left ih =>
    unfold sample
    rw [evaluate_beside]
    refine beside_bind_eq fun v => ?_
    cases v.isSuccess with
    | false => rfl
    | true => exact ih _ _

theorem evaluateRepeatedly_beside (p : Patch) (repeats : Nat) :
    (e.beside : Evaluator (ω × τ)).evaluateRepeatedly p repeats =
      PatchSearch.beside (e.evaluateRepeatedly p repeats) :=
  e.sample_beside p _ 0 0

end Evaluator

def Generator.beside (g : Generator ω) : Generator (ω × τ) :=
  ⟨fun prompt => PatchSearch.beside (g.backend prompt), g.project⟩

theorem Generator.generate_beside (g : Generator ω) (t : SourceTree) (rng : Random)
    (template : Template) (known : Tag.Values) :
    (g.beside : Generator (ω × τ)).generate t rng template known =
      PatchSearch.beside (g.generate t rng template known) := by
  unfold generate
  split
  next => rfl
  next => exact beside_bind_eq fun answer => by cases answer <;> rfl

namespace Sink

/-- What the state of a sink is after records that were offered in some worlds. -/
def after (k : Sink (ω × τ)) (offers : List (ω × StepRecord)) (x : τ) : τ :=
  offers.foldl (fun x offer => ((k offer.2).run (offer.1, x)).2.2) x

theorem after_append (k : Sink (ω × τ)) (offers offers' : List (ω × StepRecord)) (x : τ) :
    k.after (offers ++ offers') x = k.after offers' (k.after offers x) :=
  List.foldl_append

/-- A sink with a state of its own does the same to the world as another one, whatever it answers. -/
def Covers (k : Sink (ω × τ)) (sink : Sink ω) : Prop :=
  ∀ r w x, ((k r).run (w, x)).2.1 = ((sink r).run w).2

/-- The sink that always fails but remembers what it was offered. -/
def refusing : Sink (ω × List StepRecord) := fun r => do
  modify fun w => (w.1, w.2 ++ [r])
  return false

theorem covers_refusing : (refusing : Sink (ω × List StepRecord)).Covers .silent :=
  fun _ _ _ => rfl

theorem after_refusing (offers : List (ω × StepRecord)) (records : List StepRecord) :
    refusing.after offers records = records ++ offers.map Prod.snd := by
  induction offers generalizing records with
  | nil => exact (List.append_nil records).symm
  | cons offer offers ih =>
    refine (ih (records ++ [offer.2])).trans ?_
    rw [List.append_assoc, List.map_cons]
    rfl

end Sink

/-- In the world `w` the second computation goes like the first one, and a sink that it uses is offered
records in some worlds. -/
def Offers (k : Sink (ω × τ)) (x : StateM ω α) (y : StateM (ω × τ) α) (w : ω)
    (offers : List (ω × StepRecord)) : Prop :=
  ∀ t, y.run (w, t) = ((x.run w).1, ((x.run w).2, k.after offers t))

section Offers

variable {k : Sink (ω × τ)} {sink : Sink ω} {x : StateM ω α} {y : StateM (ω × τ) α} {w : ω}
  {offers offers' : List (ω × StepRecord)}

theorem offers_pure (a : α) : Offers k (pure a) (pure a) w [] :=
  fun _ => rfl

theorem offers_of_beside (h : y = beside x) : Offers k x y w [] := by
  rw [h]
  exact fun _ => rfl

theorem Offers.bind {f : α → StateM ω β} {g : α → StateM (ω × τ) β} (h : Offers k x y w offers)
    (h' : Offers k (f (x.run w).1) (g (x.run w).1) (x.run w).2 offers') :
    Offers k (x >>= f) (y >>= g) w (offers ++ offers') := by
  intro t
  rw [StateT.run_bind, StateT.run_bind, h t, Sink.after_append]
  exact h' (k.after offers t)

theorem Offers.bind_pure {f : α → β} (h : Offers k x y w offers) :
    Offers k (x >>= fun a => pure (f a)) (y >>= fun a => pure (f a)) w offers := by
  rw [← List.append_nil offers]
  exact h.bind (offers_pure _)

theorem Offers.silent_bind {f : α → StateM ω β} {g : α → StateM (ω × τ) β} (h : Offers k x y w [])
    (h' : Offers k (f (x.run w).1) (g (x.run w).1) (x.run w).2 offers) :
    Offers k (x >>= f) (y >>= g) w offers :=
  h.bind h'

theorem Sink.Covers.offers_offer (h : k.Covers sink) (r : StepRecord) :
    Offers k (sink.offer r) (k.offer r) w [(w, r)] := by
  intro t
  exact Prod.ext rfl (Prod.ext (h r w t) rfl)

end Offers

/-- Whatever else a sink does that does the same to the world as `sink`, and whatever it answers: the
computation that uses it ends in the same way, and the sink is offered the same records. -/
def Settles (sink : Sink ω) (run : (τ : Type) → Sink (ω × τ) → StateM (ω × τ) α) (w : ω) (a : α)
    (w' : ω) (offers : List (ω × StepRecord)) : Prop :=
  ∀ (τ : Type) (k : Sink (ω × τ)), k.Covers sink →
    ∀ t, (run τ k).run (w, t) = (a, (w', k.after offers t))

/-- What a sink is offered about the program before any edit, and in which world. -/
def Evaluator.baselineOffer (e : Evaluator ω) (w : ω) : ω × StepRecord :=
  let (v, w') := e.baseline.run w
  (w', .baseline v.outcome (e.measure v))

/-- What a sink is offered about an evaluation. -/
def Evaluator.offer (e : Evaluator ω) (t : Trial ω) : ω × StepRecord :=
  (((e.evaluate t.patch).run t.world).2, t.record)

namespace LocalSearch

/-- The same search with more state beside the world. -/
def beside (s : LocalSearch ω) : LocalSearch (ω × τ) :=
  ⟨s.evaluator.beside, s.generator.beside, s.regular, s.afterFailure, s.config⟩

variable {s : LocalSearch ω} {sink : Sink ω} {k : Sink (ω × τ)} {st st₀ : State} {w w₀ : ω}
  {trials : List (Trial ω)}

theorem neighbour_beside (s : LocalSearch ω) (st : State) :
    (s.beside : LocalSearch (ω × τ)).neighbour st = PatchSearch.beside (s.neighbour st) := by
  have hprompting : (s.beside : LocalSearch (ω × τ)).prompting st = s.prompting st := rfl
  have hconfig : (s.beside : LocalSearch (ω × τ)).config = s.config := rfl
  have hbase : (s.beside : LocalSearch (ω × τ)).evaluator.base = s.evaluator.base := rfl
  have hgenerator : (s.beside : LocalSearch (ω × τ)).generator = s.generator.beside := rfl
  unfold neighbour
  rw [hprompting, hconfig, hbase, hgenerator]
  split
  next template known _ =>
    extract_lets best
    split
    next simplify rng _ =>
      split
      next => rfl
      next =>
        rw [Generator.generate_beside]
        refine beside_bind_eq fun result => ?_
        obtain ⟨edit?, rng'⟩ := result
        cases edit? <;> rfl

theorem offers_measureBaseline (hk : k.Covers sink) :
    Offers k (s.measureBaseline sink st) (s.beside.measureBaseline k st) w
      [s.evaluator.baselineOffer w] := by
  refine (offers_of_beside (s.evaluator.evaluate_beside _)).silent_bind ?_
  exact (hk.offers_offer _).bind_pure

theorem offers_step (hk : k.Covers sink) (number : Nat) :
    Offers k (s.step sink number st) (s.beside.step k number st) w
      [s.evaluator.offer (s.trial st w ((s.step sink number st).run w).1.1)] := by
  refine (offers_of_beside (s.neighbour_beside st)).silent_bind ?_
  refine (offers_of_beside (s.evaluator.evaluate_beside _)).silent_bind ?_
  exact (hk.offers_offer _).bind_pure

/-- Steps make one evaluation each, and each of these is offered. -/
theorem Traces.steps (ht : s.Traces sink st₀ w₀ trials st w) (left number : Nat) :
    ∃ more, s.Traces sink st₀ w₀ (trials ++ more) ((s.steps sink left number st).run w).1
        ((s.steps sink left number st).run w).2 ∧
      more.map (fun t => t.record.step) = List.range' number left ∧
      ∀ (τ : Type) (k : Sink (ω × τ)), k.Covers sink →
        Offers k (s.steps sink left number st) (s.beside.steps k left number st) w
          (more.map s.evaluator.offer) := by
  induction left generalizing trials number st w with
  | zero => exact ⟨[], by rwa [List.append_nil], rfl, fun _ _ _ => offers_pure st⟩
  | succ left ih =>
    obtain ⟨more, htraces, hnumbers, hoffers⟩ := ih (ht.step number) (number + 1)
    refine ⟨s.trial st w ((s.step sink number st).run w).1.1 :: more, ?_, ?_, ?_⟩
    · rw [List.append_cons]
      exact htraces
    · rw [List.map_cons, hnumbers, List.range'_succ]
      rfl
    · exact fun τ k hk => (offers_step hk number).bind (hoffers τ k hk)

end LocalSearch

namespace KBestSearch

def beside (s : KBestSearch ω) : KBestSearch (ω × τ) :=
  ⟨s.evaluator.beside, s.config⟩

def logged (s : KBestSearch ω) : KBestSearch (Logged ω) :=
  ⟨s.evaluator.logged, s.config⟩

def stepOffer (s : KBestSearch ω) (sink : Sink ω) (number : Nat) (st : State) (w : ω) :
    ω × StepRecord :=
  (((s.evaluator.evaluateRepeatedly (s.candidate st) s.config.repeats).run w).2,
    ((s.step sink number st).run w).1.1)

def baselineOffer (s : KBestSearch ω) (w : ω) : ω × StepRecord :=
  let (sampled, w') := (s.evaluator.evaluateRepeatedly .empty s.config.repeats).run w
  (w', .baseline sampled.verdict.outcome sampled.mean)

variable {s : KBestSearch ω} {sink : Sink ω} {k : Sink (ω × τ)} {st st₀ : State} {w w₀ : ω}
  {rounds : List (Round ω)}

theorem offers_measureBaseline (hk : k.Covers sink) :
    Offers k (s.measureBaseline sink st) (s.beside.measureBaseline k st) w [s.baselineOffer w] := by
  refine (offers_of_beside (s.evaluator.evaluateRepeatedly_beside _ _)).silent_bind ?_
  exact (hk.offers_offer _).bind_pure

theorem offers_step (hk : k.Covers sink) (number : Nat) :
    Offers k (s.step sink number st) (s.beside.step k number st) w
      [s.stepOffer sink number st w] := by
  refine (offers_of_beside (s.evaluator.evaluateRepeatedly_beside _ _)).silent_bind ?_
  exact (hk.offers_offer _).bind_pure

/-- A record tells what came of a round, and what the candidate measured if it was a success. -/
structure Round.Reported (r : Round ω) (offer : ω × StepRecord) : Prop where
  outcome : offer.2.outcome = r.sampled.verdict.outcome
  metric : offer.2.outcome = .success → offer.2.metric = r.sampled.mean

theorem round_reported (sink : Sink ω) (number : Nat) (st : State) (w : ω) :
    (s.round st w).Reported (s.stepOffer sink number st w) :=
  ⟨rfl, fun h => if_pos h⟩

theorem map_outcome_of_reported {offers : List (ω × StepRecord)}
    (h : List.Forall₂ Round.Reported rounds offers) :
    offers.map (fun offer => offer.2.outcome) = rounds.map (fun r => r.sampled.verdict.outcome) := by
  induction h with
  | nil => rfl
  | cons hr _ ih => rw [List.map_cons, List.map_cons, hr.outcome, ih]

/-- Steps make one round each, and each of these is reported. -/
theorem Traces.steps (ht : s.Traces sink st₀ w₀ rounds st w) (left number : Nat) :
    ∃ more offers, s.Traces sink st₀ w₀ (rounds ++ more) ((s.steps sink left number st).run w).1
        ((s.steps sink left number st).run w).2 ∧
      offers.map (fun offer => offer.2.step) = List.range' number left ∧
      List.Forall₂ Round.Reported more offers ∧
      ∀ (τ : Type) (k : Sink (ω × τ)), k.Covers sink →
        Offers k (s.steps sink left number st) (s.beside.steps k left number st) w offers := by
  induction left generalizing rounds number st w with
  | zero => exact ⟨[], [], by rwa [List.append_nil], rfl, .nil, fun _ _ _ => offers_pure st⟩
  | succ left ih =>
    have hnext : s.Traces sink st₀ w₀ (rounds ++ [s.round st w])
        ((s.step sink number st).run w).1.2 ((s.step sink number st).run w).2 := .next ht rfl
    obtain ⟨more, offers, htraces, hnumbers, hreported, hoffers⟩ := ih hnext (number + 1)
    refine ⟨s.round st w :: more, s.stepOffer sink number st w :: offers, ?_, ?_, ?_, ?_⟩
    · rw [List.append_cons]
      exact htraces
    · rw [List.map_cons, hnumbers, List.range'_succ]
      rfl
    · exact .cons (round_reported sink number st w) hreported
    · exact fun τ k hk => (offers_step hk number).bind (hoffers τ k hk)

end KBestSearch

namespace GeneticSearch

def beside (s : GeneticSearch ω) : GeneticSearch (ω × τ) :=
  ⟨s.evaluator.beside, s.config⟩

def logged (s : GeneticSearch ω) : GeneticSearch (Logged ω) :=
  ⟨s.evaluator.logged, s.config⟩

variable {s : GeneticSearch ω} {sink : Sink ω} {k : Sink (ω × τ)} {st st₀ : State} {w w₀ : ω}
  {generation : Nat} {scored : List Scored} {pending : List Patch} {trials : List (Trial ω)}

theorem offers_measureBaseline (hk : k.Covers sink) :
    Offers k (s.measureBaseline sink st) (s.beside.measureBaseline k st) w
      [s.evaluator.baselineOffer w] := by
  refine (offers_of_beside (s.evaluator.evaluate_beside _)).silent_bind ?_
  exact (hk.offers_offer _).bind_pure

theorem offers_evaluateOne (hk : k.Covers sink) (p : Patch) :
    Offers k (s.evaluateOne sink generation p st) (s.beside.evaluateOne k generation p st) w
      [s.evaluator.offer (s.trial generation p st w)] := by
  refine (offers_of_beside (s.evaluator.evaluate_beside p)).silent_bind ?_
  exact (hk.offers_offer _).bind_pure

/-- A generation makes one evaluation for each patch, and each of these is offered. -/
theorem Traces.evaluateAll (ht : s.Traces sink st₀ w₀ generation scored pending trials st w) :
    ∃ more, s.Traces sink st₀ w₀ generation
        (scored ++ ((s.evaluateAll sink generation pending st).run w).1.1) [] (trials ++ more)
        ((s.evaluateAll sink generation pending st).run w).1.2
        ((s.evaluateAll sink generation pending st).run w).2 ∧
      ∀ (τ : Type) (k : Sink (ω × τ)), k.Covers sink →
        Offers k (s.evaluateAll sink generation pending st)
          (s.beside.evaluateAll k generation pending st) w (more.map s.evaluator.offer) := by
  induction pending generalizing scored trials st w with
  | nil =>
    refine ⟨[], ?_, fun _ _ _ => offers_pure _⟩
    rw [List.append_nil]
    change s.Traces sink st₀ w₀ generation (scored ++ []) [] trials st w
    rwa [List.append_nil]
  | cons p ps ih =>
    obtain ⟨more, htraces, hoffers⟩ := ih ht.next
    refine ⟨s.trial generation p st w :: more, ?_, ?_⟩
    · rw [List.append_assoc, List.append_assoc] at htraces
      exact htraces
    · exact fun τ k hk => (offers_evaluateOne hk p).bind (hoffers τ k hk).bind_pure

/-- Generations evaluate all their populations. -/
theorem Traces.generations (left : Nat)
    (ht : s.Traces sink st₀ w₀ generation [] pending trials st w) :
    ∃ population more, s.Traces sink st₀ w₀ (generation + left) [] population (trials ++ more)
        ((s.generations sink left generation pending st).run w).1
        ((s.generations sink left generation pending st).run w).2 ∧
      ∀ (τ : Type) (k : Sink (ω × τ)), k.Covers sink →
        Offers k (s.generations sink left generation pending st)
          (s.beside.generations k left generation pending st) w (more.map s.evaluator.offer) := by
  induction left generalizing generation pending trials st w with
  | zero => exact ⟨pending, [], by rwa [List.append_nil], fun _ _ _ => offers_pure st⟩
  | succ left ih =>
    obtain ⟨evaluated, htraces, hevaluated⟩ := ht.evaluateAll
    obtain ⟨population, more, hlast, hmore⟩ := ih (htraces.breed rfl)
    refine ⟨population, evaluated ++ more, ?_, fun τ k hk => ?_⟩
    · rw [Nat.add_right_comm] at hlast
      rw [← List.append_assoc]
      exact hlast
    · rw [List.map_append]
      exact (hevaluated τ k hk).bind (hmore τ k hk)

end GeneticSearch

end PatchSearch
