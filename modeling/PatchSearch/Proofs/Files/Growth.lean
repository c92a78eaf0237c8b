import Mathlib.Data.List.Basic
import PatchSearch.Harness.Workplace
import PatchSearch.Search.Storage

namespace PatchSearch

namespace Text

end Text

namespace Files

variable {fs fs' fs'' : Files} {directory place : List String} {path text : String}

/-- Everything is still there; only the content of files may be another one. -/
def Grows (fs fs' : Files) : Prop :=
  ∀ place e, fs.entry? place = some e →
    fs'.entry? place = some e ∨
      ∃ content mode content' mode', e = .file content mode ∧
        fs'.entry? place = some (.file content' mode')

theorem Grows.refl (fs : Files) : fs.Grows fs :=
  fun _ _ h => .inl h

theorem Grows.trans (h : fs.Grows fs') (h' : fs'.Grows fs'') : fs.Grows fs'' := by
  intro place e he
  rcases h place e he with he' | ⟨content, mode, content', mode', rfl, he'⟩
  · exact h' place e he'
  · rcases h' place _ he' with he'' | ⟨_, _, content'', mode'', _, he''⟩
    · exact .inr ⟨content, mode, content', mode', rfl, he''⟩
    · exact .inr ⟨content, mode, content'', mode'', rfl, he''⟩

theorem Grows.isFile (h : fs.Grows fs') (hf : fs.isFile place = true) : fs'.isFile place = true := by
  unfold Files.isFile at *
  split at hf
  next content mode he =>
    rcases h place _ he with he' | ⟨_, _, content', mode', _, he'⟩
    · rw [he']
    · rw [he']
  next => cases hf

theorem Grows.isDirectory (h : fs.Grows fs') (hd : fs.entry? place = some .directory) :
    fs'.entry? place = some .directory := by
  rcases h place _ hd with hd' | ⟨_, _, _, _, he, _⟩
  · exact hd'
  · cases he

theorem obstacle?_eq_none :
    fs.obstacle? place = none ↔ fs.entry? place.dropLast = some .directory := by
  unfold obstacle?
  cases fs.entry? place.dropLast with
  | none => simp only []; split <;> simp
  | some e => cases e <;> simp

theorem directory_of_enter {name : String} {next : List String} (h : fs.enter place name = .ok next) :
    fs.entry? place = some .directory := by
  unfold enter at h
  split at h
  next => cases h
  next he => exact he
  next => cases h

theorem Grows.enter (hg : fs.Grows fs') {name : String} {next : List String}
    (h : fs.enter place name = .ok next) : fs'.enter place name = .ok next := by
  have hd := directory_of_enter h
  unfold Files.enter at h ⊢
  rw [hd] at h
  rw [hg.isDirectory hd]
  exact h

theorem follow_cons {jump : List String → List String → Except FileError (List String)}
    {name : String} {next : List String} (hn : fs.enter place name = .ok next) (names : List String) :
    fs.follow true jump place (name :: names) =
      match fs.entry? next with
      | some (.link target) => jump (Path.start place target) (Path.parts target ++ names)
      | _ => fs.follow true jump next names := by
  have hthrough : ¬(names = [] ∧ (!true) = true) := fun h => Bool.false_ne_true h.2
  rw [Files.follow, hn]
  change (match fs.entry? next with
    | some (.link target) => if names = [] ∧ (!true) = true then _ else _
    | _ => _) = _
  split
  next => rw [if_neg hthrough]
  next => rfl

/-- A way to something that is there stays the same way. -/
theorem Grows.follow (hg : fs.Grows fs') {reached : List String} (hr : fs.entry? reached ≠ none)
    {jump jump' : List String → List String → Except FileError (List String)}
    (hjump : ∀ place names, jump place names = .ok reached → jump' place names = .ok reached)
    (names place : List String) (h : fs.follow true jump place names = .ok reached) :
    fs'.follow true jump' place names = .ok reached := by
  induction names generalizing place with
  | nil => exact h
  | cons name names ih =>
    cases hn : fs.enter place name with
    | error e =>
      rw [Files.follow, hn] at h
      cases h
    | ok next =>
      rw [follow_cons hn] at h
      rw [follow_cons (hg.enter hn)]
      cases he : fs.entry? next with
      | none =>
        rw [he] at h
        cases names with
        | nil =>
          cases Except.ok.inj h
          exact absurd he hr
        | cons name' names =>
          have hstuck : fs.enter next name' = .error .notFound := by rw [Files.enter, he]
          rw [Files.follow, hstuck] at h
          cases h
      | some e =>
        rw [he] at h
        rcases hg next e he with he' | ⟨content, mode, content', mode', rfl, he'⟩
        · rw [he']
          cases e with
          | link target => exact hjump _ _ h
          | directory | file | device => exact ih next h
        · rw [he']
          exact ih next h

theorem Grows.walk (hg : fs.Grows fs') {reached : List String} (hr : fs.entry? reached ≠ none)
    (links : Nat) (place names : List String) (h : fs.walk true links place names = .ok reached) :
    fs'.walk true links place names = .ok reached := by
  induction links generalizing place names with
  | zero => exact hg.follow hr (fun _ _ h => by cases h) names place h
  | succ links ih => exact hg.follow hr ih names place h

theorem Grows.locate (hg : fs.Grows fs') (h : fs.locate directory path = .ok place)
    (he : fs.entry? place ≠ none) : fs'.locate directory path = .ok place := by
  unfold Files.locate at h ⊢
  split at h
  next => cases h
  next hp =>
    rw [if_neg hp]
    exact hg.walk he _ _ _ h

/-- The path leads to a file that can be read and written. -/
def LeadsToFile (fs : Files) (directory : List String) (path : String) : Prop :=
  ∃ place, fs.locate directory path = .ok place ∧ fs.obstacle? place = none ∧
    fs.isFile place = true

theorem Grows.leadsToFile (hg : fs.Grows fs') (h : fs.LeadsToFile directory path) :
    fs'.LeadsToFile directory path := by
  obtain ⟨place, hl, ho, hf⟩ := h
  have he : fs.entry? place ≠ none := by
    intro he
    rw [Files.isFile, he] at hf
    cases hf
  refine ⟨place, hg.locate hl he, ?_, hg.isFile hf⟩
  rw [obstacle?_eq_none] at ho ⊢
  exact hg.isDirectory ho

theorem entry?_of_node {n : Nat} (hn : fs.node? place = some n) (hp : place ≠ []) :
    fs.entry? place = fs.nodes[n]? := by
  rw [ entry?, if_neg hp, hn, Option.bind_some]

theorem exists_node_of_entry? {e : FileEntry} (hp : place ≠ []) (h : fs.entry? place = some e) :
    ∃ n, fs.node? place = some n ∧ fs.nodes[n]? = some e := by
  rw [ entry?, if_neg hp] at h
  exact Option.bind_eq_some_iff.mp h

theorem ne_nil_of_file {content : Text.Bytes} {mode : Nat}
    (h : fs.entry? place = some (.file content mode)) : place ≠ [] := by
  rintro rfl
  cases h

theorem entry?_create {e : FileEntry} (h : fs.entry? place = some e) (new : List String)
    (e' : FileEntry) : Files.entry? (fs.create new e') place = some e := by
  by_cases hp : place = []
  · subst hp
    exact h
  · obtain ⟨n, hn, he⟩ := exists_node_of_entry? hp h
    have hn' : (fs.create new e').node? place = some n := by
      have hn : fs.entries.lookup place = some n := hn
      rw [node?, create, List.lookup_append, hn]
      rfl
    obtain ⟨hlt, _⟩ := Array.getElem?_eq_some_iff.mp he
    have hold : (fs.nodes.push e')[n]? = fs.nodes[n]? := by
      rw [Array.getElem?_push, if_neg (Nat.ne_of_lt hlt)]
    rw [entry?_of_node hn' hp, create, hold, he]

theorem grows_create (fs : Files) (place : List String) (e : FileEntry) :
    fs.Grows (fs.create place e) :=
  fun _ _ h => .inl (entry?_create h place e)

theorem entry?_setNode {n : Nat} (h : fs.node? place ≠ some n) (e : FileEntry) :
    Files.entry? (fs.setNode n e) place = fs.entry? place := by
  by_cases hp : place = []
  · rw [ entry?, entry?, if_pos hp, if_pos hp]
  · have hsame : (fs.setNode n e).node? place = fs.node? place := rfl
    rw [ entry?, entry?, if_neg hp, if_neg hp, hsame]
    cases hm : fs.node? place with
    | none => rfl
    | some m =>
      have hnm : n ≠ m := fun hnm => h (by rw [hm, hnm])
      rw [Option.bind_some, Option.bind_some, setNode, Array.getElem?_setIfInBounds_ne hnm]

theorem entry?_setNode_self {n : Nat} {old e : FileEntry} (hn : fs.node? place = some n)
    (hp : place ≠ []) (h : fs.nodes[n]? = some old) : Files.entry? (fs.setNode n e) place = some e := by
  have hn' : (fs.setNode n e).node? place = some n := hn
  obtain ⟨hlt, _⟩ := Array.getElem?_eq_some_iff.mp h
  rw [entry?_of_node hn' hp, setNode, Array.getElem?_setIfInBounds, if_pos rfl, if_pos hlt]

theorem grows_setNode {n : Nat} {content content' : Text.Bytes} {mode mode' : Nat}
    (h : fs.nodes[n]? = some (.file content mode)) :
    fs.Grows (fs.setNode n (.file content' mode')) := by
  intro p e he
  by_cases hp : p = []
  · subst hp
    exact .inl he
  · by_cases hm : fs.node? p = some n
    · rw [entry?_of_node hm hp, h] at he
      cases he
      exact .inr ⟨content, mode, content', mode', rfl, entry?_setNode_self hm hp h⟩
    · exact .inl ((entry?_setNode hm _).trans he)

theorem set_eq_setNode {n : Nat} (hn : fs.node? place = some n) (e : FileEntry) :
    fs.set place e = fs.setNode n e := by
  rw [set, hn]

/-- Writing makes a file, changes the content of one, or changes nothing. -/
theorem write_cases {content : Text.Bytes} (h : fs.write place content = .ok fs') :
    fs' = fs ∨ fs' = fs.create place (.file content FileEntry.plainMode) ∨
      ∃ n old mode, fs.node? place = some n ∧ fs.nodes[n]? = some (.file old mode) ∧
        fs.entry? place = some (.file old mode) ∧ fs' = fs.setNode n (.file content mode) := by
  unfold write at h
  split at h
  next => cases h
  next =>
    split at h
    next => exact .inr (.inl (Except.ok.inj h).symm)
    next old mode he =>
      obtain ⟨n, hn, hold⟩ := exists_node_of_entry? (ne_nil_of_file he) he
      refine .inr (.inr ⟨n, old, mode, hn, hold, he, ?_⟩)
      rw [← set_eq_setNode hn]
      exact (Except.ok.inj h).symm
    next =>
      split at h
      next => exact .inl (Except.ok.inj h).symm
      next => cases h
    next => exact .inl (Except.ok.inj h).symm
    next => cases h
    next => cases h

theorem grows_write {content : Text.Bytes} (h : fs.write place content = .ok fs') :
    fs.Grows fs' := by
  rcases write_cases h with rfl | rfl | ⟨n, old, mode, _, hold, _, rfl⟩
  · exact .refl _
  · exact grows_create fs place _
  · exact grows_setNode hold

theorem grows_writeTextAt (h : fs.writeTextAt directory path text = .ok fs') : fs.Grows fs' := by
  obtain ⟨place, _, h⟩ := exists_ok_of_bind h
  exact grows_write h

theorem grows_makeDirectory (h : fs.makeDirectory place = .ok fs') : fs.Grows fs' := by
  unfold makeDirectory at h
  split at h
  next => cases h
  next =>
    split at h
    next => cases Except.ok.inj h; exact grows_create fs place _
    next => cases h

theorem grows_provide (h : fs.provide directory path = .ok fs') : fs.Grows fs' := by
  obtain ⟨⟨last, reached⟩, hsteps, hlast⟩ := exists_ok_of_bind h
  cases Except.ok.inj hlast
  clear hlast h
  generalize Path.start directory path = place at hsteps
  generalize Path.parts path = names at hsteps
  induction names generalizing fs place with
  | nil =>
    cases Except.ok.inj hsteps
    exact .refl _
  | cons name names ih =>
    rw [List.foldlM_cons] at hsteps
    obtain ⟨⟨next, place'⟩, hstep, hsteps⟩ := exists_ok_of_bind hsteps
    refine Grows.trans ?_ (ih place' hsteps)
    obtain ⟨stop, _, hstep⟩ := exists_ok_of_bind hstep
    split at hstep
    next => cases Except.ok.inj hstep; exact .refl _
    next =>
      obtain ⟨made, hmade, hstep⟩ := exists_ok_of_bind hstep
      cases Except.ok.inj hstep
      exact grows_makeDirectory hmade

/-- The bytes of the file that a path leads to. -/
def contentAt (fs : Files) (directory : List String) (path : String) :
    Except FileError Text.Bytes := do
  fs.read (← fs.locate directory path)

theorem grows_placeSource (c : CommandConfig) (directory : List String) (source : String)
    (fs : Files) : fs.Grows (c.placeSource directory source fs).2 := by
  unfold CommandConfig.placeSource
  simp only []
  split
  next => exact .refl fs
  next made hmade =>
    have hg : fs.Grows made := by
      split at hmade
      next => cases Except.ok.inj hmade; exact .refl _
      next parent _ =>
        cases hprovided : fs.provide directory parent with
        | error e => rw [hprovided] at hmade; cases hmade
        | ok provided =>
          rw [hprovided] at hmade
          cases Except.ok.inj hmade
          exact grows_provide hprovided
    split
    next hw => exact hg.trans (grows_writeTextAt hw)
    next => exact hg

end Files

end PatchSearch
