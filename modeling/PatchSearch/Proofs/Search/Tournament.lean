import PatchSearch.Proofs.Search.Crossover

namespace PatchSearch.GeneticSearch

/-- The choice of the least is at most any of the elements. -/
theorem foldl_choice_le {α : Type} (key : α → Int) (first : α) (others : List α) :
    ∀ entry ∈ first :: others,
      key (others.foldl (fun best entry => if key entry < key best then entry else best) first) ≤
        key entry := by
  induction others generalizing first with
  | nil => exact fun entry h => by rw [List.mem_singleton.mp h]; exact Int.le_refl _
  | cons other others ih =>
    intro entry h
    let kept := if key other < key first then other else first
    have hkept : key kept ≤ key first ∧ key kept ≤ key other := by
      by_cases hlt : key other < key first
      · rw [show kept = other from if_pos hlt]
        exact ⟨Int.le_of_lt hlt, Int.le_refl _⟩
      · rw [show kept = first from if_neg hlt]
        exact ⟨Int.le_refl _, Int.not_lt.mp hlt⟩
    have hfold := ih kept kept List.mem_cons_self
    rw [List.foldl_cons]
    rcases List.mem_cons.mp h with rfl | h
    · exact Int.le_trans hfold hkept.1
    · rcases List.mem_cons.mp h with rfl | h
      · exact Int.le_trans hfold hkept.2
      · exact ih kept entry (List.mem_cons_of_mem _ h)

theorem fittest?_le {pool : List Scored} {winner : Scored} (h : fittest? pool = some winner) :
    ∀ entry ∈ pool, orderKey winner.2 ≤ orderKey entry.2 := by
  cases pool with
  | nil => cases h
  | cons first others =>
    rw [← Option.some.inj h]
    exact foldl_choice_le (fun entry : Scored => orderKey entry.2) first others

theorem exists_fittest? {pool : List Scored} (h : pool ≠ []) :
    ∃ winner, fittest? pool = some winner := by
  cases pool with
  | nil => exact absurd rfl h
  | cons first others => exact ⟨_, rfl⟩

/-- A tournament between entries of a pool. Entries are told apart by their positions, since the same
patch may stand at several of them. -/
structure Tournament (pool : List Scored) (size : Nat) where
  entrants : List (Fin pool.length)
  winner : Fin pool.length
  nodup : entrants.Nodup
  length_eq : entrants.length = size
  enters : winner ∈ entrants
  least : ∀ i ∈ entrants, orderKey pool[winner].2 ≤ orderKey pool[i].2

/-- How many entries beside the one at a position are no better than it. -/
def outranked (pool : List Scored) (i : Fin pool.length) : Nat :=
  (List.finRange pool.length).countP fun j => j ≠ i ∧ orderKey pool[i].2 ≤ orderKey pool[j].2

variable {pool : List Scored} {size : Nat}

/-- All that take part but the winner are outranked by it. -/
theorem Tournament.size_le_outranked (t : Tournament pool size) :
    size - 1 ≤ outranked pool t.winner := by
  have hlosers : t.entrants.erase t.winner ⊆ (List.finRange pool.length).filter fun j =>
      j ≠ t.winner ∧ orderKey pool[t.winner].2 ≤ orderKey pool[j].2 := by
    intro j hj
    obtain ⟨hne, hm⟩ := t.nodup.mem_erase_iff.mp hj
    exact List.mem_filter.mpr ⟨List.mem_finRange j, decide_eq_true ⟨hne, t.least j hm⟩⟩
  have hle := (List.subperm_of_subset (t.nodup.erase t.winner) hlosers).length_le
  rw [List.length_erase_of_mem t.enters, t.length_eq, ← List.countP_eq_length_filter] at hle
  exact hle

/-- An entry that all others are better than outranks none. -/
theorem outranked_worst {i : Fin pool.length}
    (h : ∀ j, j ≠ i → orderKey pool[j].2 < orderKey pool[i].2) : outranked pool i = 0 := by
  refine List.countP_eq_zero.mpr fun j _ => ?_
  rw [decide_eq_true_eq]
  rintro ⟨hne, hle⟩
  exact absurd (h j hne) (Int.not_lt.mpr hle)

/-- The tournament between the first entries of a pool in another order. -/
theorem exists_tournament {order : List (Fin pool.length)} (h : order.Perm (List.finRange pool.length))
    (hpos : 0 < size) (hsize : size ≤ pool.length) :
    ∃ t : Tournament pool size,
      ((fittest? ((order.map pool.get).take size)).map Prod.fst).getD Patch.empty =
        pool[t.winner].1 := by
  have hlength : (order.take size).length = size := by
    rw [List.length_take, h.length_eq, List.length_finRange, Nat.min_eq_left hsize]
  have hne : (order.map pool.get).take size ≠ [] := by
    rw [← List.map_take]
    intro hnil
    rw [List.map_eq_nil_iff.mp hnil] at hlength
    exact absurd hlength (Nat.ne_of_lt hpos)
  obtain ⟨winner, hw⟩ := exists_fittest? hne
  obtain ⟨i, hi, rfl⟩ := List.mem_map.mp (List.map_take ▸ mem_of_fittest? hw)
  have hnodup : order.Nodup := h.nodup_iff.mpr (List.nodup_finRange _)
  refine ⟨⟨order.take size, i, hnodup.sublist (List.take_sublist _ _), hlength, hi, fun j hj => ?_⟩, ?_⟩
  · exact fittest?_le hw _ (by rw [← List.map_take]; exact List.mem_map_of_mem hj)
  · rw [hw]
    rfl

/-- Every winner has won a tournament between entries of the pool, in whichever order it stands when the
tournaments begin. -/
theorem exists_tournaments (hpos : 0 < size) (hsize : size ≤ pool.length) (n : Nat)
    {order : List (Fin pool.length)} (h : order.Perm (List.finRange pool.length)) (g : Random) :
    ∃ rounds : List (Tournament pool size),
      (tournaments size n (order.map pool.get) g).1 = rounds.map fun t => pool[t.winner].1 := by
  induction n generalizing order g with
  | zero => exact ⟨[], rfl⟩
  | succ n ih =>
    let shuffled := g.shuffle order
    have hshuffled : shuffled.1.Perm (List.finRange pool.length) := (g.shuffle_perm order).trans h
    obtain ⟨t, ht⟩ := exists_tournament hshuffled hpos hsize
    obtain ⟨rounds, hrounds⟩ := ih hshuffled shuffled.2
    refine ⟨t :: rounds, ?_⟩
    rw [tournaments, g.shuffle_map pool.get order, List.map_cons, ← ht, ← hrounds]

variable {ω : Type} (s : GeneticSearch ω) (scored : List Scored) (st : State)

theorem length_pool :
    (s.pool st scored).length = max scored.length s.config.populationSize := by
  rw [GeneticSearch.pool, List.length_append, List.length_replicate]
  omega

/-- There are enough entries for every tournament that takes place. -/
theorem tournamentSize_bounds (h : 0 < s.config.populationSize / 2) :
    0 < s.tournamentSize (s.pool st scored).length ∧
      s.tournamentSize (s.pool st scored).length ≤ (s.pool st scored).length := by
  have hpool := s.length_pool scored st
  unfold tournamentSize
  dsimp only
  omega

/-- Half a population of parents is chosen, each of them by a tournament between different entries of
the scored patches, filled up with empty patches to a population. There are enough entries for as many
to take part as the size of a tournament says, and at least all but one of these are entries other than
the winner that are no better. So if two or more take part, an entry that all others are better than
does not win. -/
theorem select_outranks :
    let pool := scored ++
      List.replicate (s.config.populationSize - scored.length) (Patch.empty, st.baselineFitness.toBits)
    let size := s.tournamentSize pool.length
    (s.select scored st).1.length = s.config.populationSize / 2 ∧
      (0 < s.config.populationSize / 2 → 0 < size ∧ size ≤ pool.length) ∧
      ∃ rounds : List (Tournament pool size),
        (s.select scored st).1 = rounds.map (fun t => pool[t.winner].1) ∧
        (∀ t ∈ rounds, size - 1 ≤ outranked pool t.winner) ∧
        (2 ≤ size → ∀ worst : Fin pool.length,
          (∀ j, j ≠ worst → orderKey pool[j].2 < orderKey pool[worst].2) →
          ∀ t ∈ rounds, t.winner ≠ worst) := by
  intro pool size
  have hbounds : 0 < s.config.populationSize / 2 → 0 < size ∧ size ≤ pool.length :=
    s.tournamentSize_bounds scored st
  obtain ⟨rounds, hrounds⟩ : ∃ rounds : List (Tournament pool size),
      (s.select scored st).1 = rounds.map fun t => pool[t.winner].1 := by
    rcases Nat.eq_zero_or_pos (s.config.populationSize / 2) with hzero | hpos
    · refine ⟨[], List.eq_nil_of_length_eq_zero ?_⟩
      rw [length_select, hzero]
    · have hall := exists_tournaments (hbounds hpos).1 (hbounds hpos).2 (s.config.populationSize / 2)
        (List.Perm.refl (List.finRange pool.length)) st.rng
      rwa [List.map_get_finRange] at hall
  refine ⟨length_select, hbounds, rounds, hrounds, fun t _ => t.size_le_outranked, ?_⟩
  intro htwo worst hworst t _ heq
  have hle := t.size_le_outranked
  rw [heq, outranked_worst hworst] at hle
  omega

/-- One patch of a population of ten was evaluated and failed; it never wins against the nine empty
patches beside it. -/
theorem select_outranks_failed :
    let failure : Failure := .ofText "out of memory"
    let e : Evaluator Unit := ⟨fun _ _ _ => pure (.error failure),
      ⟨"K", "run", [], SourceTree.ofItems []⟩, .executionTime⟩
    let s : GeneticSearch Unit := ⟨e, SearchConfig.standard⟩
    let st := { s.fresh with baselineFitness := 1 }
    let failed : Scored := (⟨[.structural (.delete 3)]⟩, worstFitness.toBits)
    s.tournamentSize 10 = 2 ∧ (s.select [failed] st).1 = List.replicate 5 Patch.empty := by
  intro failure e s st failed
  let pool := [failed] ++ List.replicate 9 (Patch.empty, (1 : Float).toBits)
  let worst : Fin pool.length := ⟨0, by decide⟩
  have hsize : s.tournamentSize 10 = 2 := by
    have hceiling : ceiling ((10 : Nat).toUInt64.toFloat * tournamentFraction) = 2 := by decide +kernel
    change max 1 (min (ceiling ((10 : Nat).toUInt64.toFloat * tournamentFraction)) (max 1 10)) = 2
    rw [hceiling]
    rfl
  have hworst : ∀ j, j ≠ worst → orderKey pool[j].2 < orderKey pool[worst].2 := by decide +kernel
  have hempty : ∀ j, j ≠ worst → pool[j].1 = Patch.empty := by decide +kernel
  obtain ⟨hlength, _, rounds, hrounds, _, hnever⟩ := s.select_outranks [failed] st
  have hhalf : SearchConfig.standard.populationSize / 2 = 5 := by decide
  refine ⟨hsize, List.eq_replicate_iff.mpr ⟨hlength.trans hhalf, fun p hp => ?_⟩⟩
  obtain ⟨t, ht, rfl⟩ := List.mem_map.mp (hrounds ▸ hp)
  exact hempty t.winner (hnever (Nat.le_of_eq hsize.symm) worst hworst t ht)

end PatchSearch.GeneticSearch
