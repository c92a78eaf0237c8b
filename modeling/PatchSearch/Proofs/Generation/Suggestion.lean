import PatchSearch.Proofs.Search.Prompting
import PatchSearch.Proofs.Statement.Seams

namespace PatchSearch

/-- The first of some texts that is a statement, and the statement. -/
def Statement.FirstRead (texts : List String) (text : String) (s : Statement) : Prop :=
  ∃ before after, texts = before ++ text :: after ∧ parse text = .ok s ∧
    ∀ t ∈ before, ∀ s', parse t ≠ .ok s'

namespace Statement.FirstRead

variable {texts : List String} {text : String} {s : Statement}

theorem mem (h : FirstRead texts text s) : text ∈ texts := by
  obtain ⟨before, after, rfl, _⟩ := h
  exact List.mem_append_right _ List.mem_cons_self

theorem parse_eq (h : FirstRead texts text s) : parse text = .ok s := by
  obtain ⟨_, _, _, h, _⟩ := h
  exact h

end Statement.FirstRead

/-- No code block of an answer is a statement. -/
def Fence.Unusable (response : String) : Prop :=
  ∀ block ∈ blocksOf response, ∀ s, Statement.parse block ≠ .ok s

namespace GeneratedEdit

variable {e : GeneratedEdit} {destination : Nat} {prompt response : String}

theorem isSentinel_iff : e.isSentinel = true ↔ e.replacement = none :=
  Option.isNone_iff_eq_none

/-- An edit without a replacement leaves every program as it is. -/
theorem apply_of_isSentinel (h : e.isSentinel = true) (t : SourceTree) : e.apply t = .ok t := by
  rw [apply, isSentinel_iff.mp h]

/-- An edit that is made of an answer. -/
structure AnsweredBy (e : GeneratedEdit) (answer : Except Failure String) : Prop where
  /-- There is no replacement only if there was no answer or nothing to use in it. -/
  sentinel : e.isSentinel = true ↔
    (∃ f, answer = .error f) ∨ ∃ response, answer = .ok response ∧ Fence.Unusable response
  identity : e.isSentinel = true →
    e = .noSuggestion e.destination e.prompt e.response ∧ ∀ t, e.apply t = .ok t
  /-- The replacement is the first statement among the blocks, and its text is that block. -/
  replacement : ∀ s ∈ e.replacement, ∃ response block, answer = .ok response ∧
    Statement.FirstRead (Fence.blocksOf response) block s ∧
    e.replacementText = Text.trimmed block ∧ Statement.parse e.replacementText = .ok s
  response : ∀ response, answer = .ok response → e.response = response

theorem ofResponse_cases (destination : Nat) (prompt response : String) :
    Fence.Unusable response ∧
        ofResponse destination prompt response = .noSuggestion destination prompt response ∨
      ∃ block s, Statement.FirstRead (Fence.blocksOf response) block s ∧
        ofResponse destination prompt response =
          ⟨destination, some s, Text.trimmed block, prompt, response⟩ := by
  unfold ofResponse
  dsimp only
  cases hf : List.findSome? _ (Fence.blocksOf response) with
  | none =>
    refine Or.inl ⟨fun block hb s hs => ?_, rfl⟩
    have hskipped := List.findSome?_eq_none_iff.mp hf block hb
    rw [hs] at hskipped
    cases hskipped
  | some e =>
    obtain ⟨before, block, after, hblocks, hb, hbefore⟩ := List.findSome?_eq_some_iff.mp hf
    split at hb
    next s hs =>
      cases hb
      refine Or.inr ⟨block, s, ⟨before, after, hblocks, hs, fun t ht s' hs' => ?_⟩, rfl⟩
      have hskipped := hbefore t ht
      rw [hs'] at hskipped
      cases hskipped
    next => cases hb

theorem AnsweredBy.of_error (f : Failure) :
    (noSuggestion destination prompt "").AnsweredBy (.error f) where
  sentinel := iff_of_true rfl (Or.inl ⟨f, rfl⟩)
  identity := fun _ => ⟨rfl, apply_of_isSentinel rfl⟩
  replacement := fun s hs => absurd hs (Option.not_mem_none s)
  response := fun _ h => by cases h

theorem AnsweredBy.of_ok (destination : Nat) (prompt response : String) :
    (ofResponse destination prompt response).AnsweredBy (.ok response) := by
  rcases ofResponse_cases destination prompt response with ⟨hun, he⟩ | ⟨block, s, hfirst, he⟩
  · rw [he]
    exact {
      sentinel := iff_of_true rfl (Or.inr ⟨response, rfl, hun⟩)
      identity := fun _ => ⟨rfl, apply_of_isSentinel rfl⟩
      replacement := fun s hs => absurd hs (Option.not_mem_none s)
      response := fun _ h => Except.ok.inj h }
  · rw [he]
    have hmem := hfirst.mem
    have hs := hfirst.parse_eq
    refine ⟨iff_of_false Bool.false_ne_true ?_, (absurd · Bool.false_ne_true), ?_, fun _ h => Except.ok.inj h⟩
    · rintro (⟨f, hf⟩ | ⟨_, h, hun⟩)
      · cases hf
      · cases h
        exact hun block hmem s hs
    · intro s' hs'
      cases hs'
      exact ⟨response, block, rfl, hfirst, rfl, Statement.parse_trimmed hs⟩

end GeneratedEdit

namespace Generator

variable {ω : Type}

/-- There is no edit only if there is no statement; every other edit is made of the backend's answer to
its prompt. -/
theorem generate_cases (g : Generator ω) (t : SourceTree) (rng : Random) (template : Template)
    (known : Tag.Values) (w : ω) :
    t.statementIds true = [] ∧ ((g.generate t rng template known).run w).1.1 = none ∨
      ∃ e, ((g.generate t rng template known).run w).1.1 = some e ∧
        e.AnsweredBy ((g.backend e.prompt).run w).1 := by
  unfold generate
  split
  next rng₁ hd => exact Or.inl ⟨Random.choose_eq_none_iff.mp (congrArg Prod.fst hd), rfl⟩
  next destination rng₁ _ =>
    refine Or.inr ?_
    dsimp only
    generalize template.render (g.values t destination known) = prompt
    obtain ⟨⟨answer, w'⟩, h⟩ : ∃ r, (g.backend prompt).run w = r := ⟨_, rfl⟩
    rw [StateT.run_bind, h]
    cases answer with
    | error f => exact ⟨_, rfl, by rw [GeneratedEdit.noSuggestion, h]; exact .of_error f⟩
    | ok response =>
      refine ⟨_, rfl, ?_⟩
      rw [GeneratedEdit.prompt_ofResponse, h]
      exact .of_ok destination prompt response

/-- There is an edit unless the target method has no statements. For an edit the backend is asked once,
with the rendered prompt about a statement of that method, and the edit is made of its answer. -/
theorem generate_earliest (g : Generator ω) (t : SourceTree) (rng : Random) (template : Template)
    (known : Tag.Values) (w : ω) :
    (((g.generate t rng template known).run w).1.1 = none ↔ t.statementIds true = []) ∧
    ∃ prompts, Logs (g.generate t rng template known) (g.overheard.generate t rng template known) w
        prompts ∧
      match ((g.generate t rng template known).run w).1.1 with
      | none => prompts = []
      | some e => e.destination ∈ t.statementIds true ∧
          e.prompt = template.render (g.values t e.destination known) ∧ prompts = [e.prompt] ∧
          e.AnsweredBy ((g.backend e.prompt).run w).1 := by
  obtain ⟨prompts, hlogs, hprompts⟩ := g.logs_overheard t rng template known w
  rcases g.generate_cases t rng template known w with ⟨hempty, hnone⟩ | ⟨e, hsome, he⟩
  · rw [hnone] at hprompts ⊢
    exact ⟨iff_of_true rfl hempty, prompts, hlogs, hprompts⟩
  · rw [hsome] at hprompts ⊢
    obtain ⟨hm, hprompt, hsent⟩ := hprompts
    exact ⟨iff_of_false (Option.some_ne_none e) (List.ne_nil_of_mem hm), prompts, hlogs, hm, hprompt,
      hsent, he⟩

/-- The first block is no code and the second one a statement between blanks. -/
theorem generate_earliest_second :
    let t := { SourceTree.ofItems [.block "class K" [.block "void run()" [.simple "a();"]]] with
      target := some 2 }
    let response := "```java\nnot code \x7b\n```\n```java\n  int s = 1; \n```\n```\nint s = 2;\n```"
    let g : Generator Unit := ⟨fun _ => pure (.ok response), "K"⟩
    let run := (g.generate t (.ofSeed 1) ⟨"rewrite " ++ Tag.destination.token⟩ .none).run ()
    ∃ e, run.1.1 = some e ∧ e.isSentinel = false ∧ e.prompt = "rewrite a();" ∧
      e.replacementText = "int s = 1;" ∧
      Statement.parse e.replacementText = .ok (.simple "int s = 1;") ∧
      Logs (g.generate t (.ofSeed 1) ⟨"rewrite " ++ Tag.destination.token⟩ .none)
        (g.overheard.generate t (.ofSeed 1) ⟨"rewrite " ++ Tag.destination.token⟩ .none) ()
        ["rewrite a();"] := by
  intro t response g run
  obtain ⟨_, prompts, hlogs, hrun⟩ :=
    generate_earliest g t (.ofSeed 1) ⟨"rewrite " ++ Tag.destination.token⟩ .none ()
  have he : ∀ x, run.1.1 = x → ∃ e ∈ x, e.isSentinel = false ∧ e.prompt = "rewrite a();" ∧
      e.replacement = some (.simple "int s = 1;") ∧ e.replacementText = "int s = 1;" := by
    rintro _ rfl
    decide +kernel
  obtain ⟨e, hsome, hsentinel, hprompt, hreplacement, htext⟩ := he _ rfl
  change match run.1.1 with | none => _ | some e => _ at hrun
  rw [Option.mem_def.mp hsome] at hrun
  obtain ⟨_, _, rfl, hanswered⟩ := hrun
  rw [hprompt] at hlogs
  obtain ⟨_, _, _, _, _, hparse⟩ := hanswered.replacement _ hreplacement
  exact ⟨e, hsome, hsentinel, hprompt, htext, hparse, hlogs⟩

end Generator

end PatchSearch
