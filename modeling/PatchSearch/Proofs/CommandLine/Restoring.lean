import PatchSearch.Proofs.CommandLine.Dispatch
import PatchSearch.Proofs.Search.Keeping
import PatchSearch.Proofs.Search.Unadopted

namespace PatchSearch

namespace Target

variable {target : Target} {fs : Files} {directory tests : List String}
  {path source className method : String}

end Target

namespace CommandLine

open HasFiles Session

variable {ω : Type} [HasFiles ω]

namespace RunOptions

variable {run : RunOptions} {host : Host ω} {directory : List String} {fs : Files} {w : ω}
  {target : Target} {search : Strategy ω} {outcome : Except Failure Summary}

/-- The command lines that judge a candidate of a run. -/
def commandLines (run : RunOptions) : List String :=
  run.commandConfig.commandLines run.className run.tests

/-- The trees of files that a search can bring about: it starts its report and writes records to it,
puts candidates in the source file, and has its host run its commands. -/
inductive Arises (run : RunOptions) (host : Host ω) (directory : List String) (fs : Files) :
    Files → Prop
  | start : Arises run host directory fs fs
  | report {path tree handle tree'} : path ∈ run.report → Arises run host directory fs tree →
      createReport tree directory path = .ok (handle, tree') → Arises run host directory fs tree'
  | record {tree} (handle : Nat) (r : StepRecord) : Arises run host directory fs tree →
      Arises run host directory fs (Sink.lines handle r tree).2
  | candidate {tree} (source : String) : Arises run host directory fs tree →
      Arises run host directory fs (run.commandConfig.placeSource directory source tree).2
  | command {line w} : line ∈ run.commandLines → Arises run host directory fs (files w) →
      Arises run host directory fs
        (files ((run.commandConfig.runCommand host directory line).run w).2)

/-- Whatever a search brought about, its commands leave the source file in its place. -/
def Spares (run : RunOptions) (host : Host ω) (directory : List String) (fs : Files) : Prop :=
  ∀ w, run.Arises host directory fs (files w) → (files w).LeadsToFile directory run.sourcePath →
    ∀ line ∈ run.commandLines, (files ((run.commandConfig.runCommand host directory line).run w).2
      ).LeadsToFile directory run.sourcePath

/-- During a search the source file is in its place. -/
def Stands (run : RunOptions) (host : Host ω) (directory : List String) (fs : Files) (w : ω) : Prop :=
  run.Arises host directory fs (files w) ∧ (files w).LeadsToFile directory run.sourcePath

theorem Stands.of_same {w' : ω} (h : run.Stands host directory fs w) (hsame : files w' = files w) :
    run.Stands host directory fs w' := by
  rw [Stands, hsame]
  exact h

theorem Judges.keeps {e : Evaluator ω} (hs : run.Spares host directory fs)
    (hnames : target.className = run.className ∧ target.tests = run.tests)
    (he : run.Judges host directory target e) : e.Keeps (run.Stands host directory fs) := by
  obtain ⟨meter, metric, rfl⟩ := he
  refine Workshop.keeps_harness (fun source w h => ?_) (fun _ h => h) (fun _ h => h)
    fun line hline w h => ?_
  · have hplaced : files (((Workshop.ofHost host run.commandConfig directory meter).place source).run w).2 =
        (run.commandConfig.placeSource directory source (files w)).2 := files_setFiles _ _
    rw [Stands, hplaced]
    exact ⟨h.1.candidate source, (Files.grows_placeSource _ _ _ _).leadsToFile h.2⟩
  · simp only [hnames] at hline
    exact ⟨h.1.command hline, hs w h.1 h.2 line hline⟩

/-- Whatever its evaluations bring about, a search leaves the source file in its place. -/
theorem Searches.keeps {sink : Sink ω} (hs : run.Spares host directory fs)
    (hnames : target.className = run.className ∧ target.tests = run.tests)
    (hsink : ∀ r, Keeps (run.Stands host directory fs) (sink r))
    (h : run.Searches host directory target search) :
    Keeps (run.Stands host directory fs) (search sink) := by
  cases h with
  | localSearch s he hb =>
    have hbackend : ∀ prompt, Keeps (run.Stands host directory fs) (s.generator.backend prompt) :=
      fun prompt w h => h.of_same (hb prompt w)
    exact (LocalSearch.keeps_run hsink (he.keeps hs hnames) hbackend _).bind fun _ => keeps_pure _
  | kbest s he =>
    exact (KBestSearch.keeps_run hsink (he.keeps hs hnames) _).bind fun _ => keeps_pure _
  | genetic s he =>
    exact (GeneticSearch.keeps_run hsink (he.keeps hs hnames) _).bind fun _ => keeps_pure _

theorem Searches.unadopted {sink : Sink ω} {started searched : ω} {m : Summary}
    (h : run.Searches host directory target search)
    (hrun : (search sink).run started = (.ok m, searched)) (ha : m.accepted = 0) :
    m.bestSource = some target.tree.render := by
  cases h with
  | localSearch s he hb =>
    obtain ⟨meter, metric, he⟩ := he
    obtain ⟨⟨m', st⟩, w, hr, hrun⟩ := exists_run_of_bind hrun
    cases hrun
    rw [LocalSearch.bestSource_of_unadopted hr ha, Evaluator.base, he]
  | kbest s he =>
    obtain ⟨meter, metric, he⟩ := he
    obtain ⟨⟨m', st⟩, w, hr, hrun⟩ := exists_run_of_bind hrun
    cases hrun
    rw [KBestSearch.bestSource_of_unadopted hr ha, Evaluator.base, he]
  | genetic s he =>
    obtain ⟨meter, metric, he⟩ := he
    obtain ⟨⟨result, st⟩, w, hr, hrun⟩ := exists_run_of_bind hrun
    cases hrun
    rw [GeneticSearch.bestSource_of_unadopted hr ha, Evaluator.base, he]

/-- What is left to do after a search, when the source file is restored: its summary is written. -/
def conclude (run : RunOptions) (directory : List String) (outcome : Except Failure Summary) :
    Session ω String := do
  let summary ← MonadExcept.ofExcept outcome
  if let some path := run.summary then
    Session.change fun fs => (fs.writeTextAt directory path summary.save).mapError Failure.ofFile
  return summary.save ++ "\n"

/-- What a search with an outcome answers, and what it leaves in the source file, which held the bytes
`before`. -/
structure Settled (run : RunOptions) (directory : List String) (target : Target) (before : Text.Bytes)
    (outcome : Except Failure Summary) (answer : Except Failure String) (after : Files) : Prop where
  kept : run.writeBest = false → after.contentAt directory run.sourcePath = .ok before
  failed : ∀ f, outcome = .error f →
    answer = .error f ∧ after.contentAt directory run.sourcePath = .ok before
  missing : ∀ m, outcome = .ok m → m.bestSource = none →
    after.contentAt directory run.sourcePath = .ok before
  replaced : run.writeBest = true → ∀ m text, outcome = .ok m → m.bestSource = some text →
    after.contentAt directory run.sourcePath = .ok (Text.encode text)
  unadopted : ∀ m, outcome = .ok m → m.accepted = 0 → m.bestSource = some target.tree.render
  answered : ∀ m, outcome = .ok m → answer = .ok (m.save ++ "\n") ∨
    ∃ path ∈ run.summary, ∃ e, answer = .error (.ofFile e)

/-- The result of a search: its report cannot be started and nothing is changed, or it runs and its outcome
is settled. -/
def Settles (run : RunOptions) (directory : List String) (w : ω) (target : Target)
    (search : Strategy ω) (result : Except Failure String × ω) : Prop :=
  ∃ before, (files w).contentAt directory run.sourcePath = .ok before ∧
    ((∃ f, (run.sink directory).run w = ((.error f : Except Failure (Sink ω)), w) ∧
        result = (.error f, w)) ∨
      ∃ sink started, (run.sink directory).run w = (.ok sink, started) ∧
        run.Settled directory target before ((search sink).run started).1 result.1 (files result.2))

end RunOptions

/-- A host on which all commands end alike and change no file, and take a nanosecond for each byte of the
file at a place. -/
def Host.still (p : ProcessEnd) (place : List String) : Host (Files × Nat) where
  run _ _ _ _ := fun (fs, time) =>
    (.ok p, fs, time + ((fs.read place).toOption.map List.length).getD 0)
  consumed w := ⟨w.2, 0, 0⟩
  ask := Client.backend
  files_ask _ _ _ := rfl

end CommandLine

end PatchSearch
