import Mathlib.Data.UInt
import PatchSearch.Harness.Energy

namespace PatchSearch

/-- Subtraction that has no result below zero. -/
def exactSub? (a b : UInt64) : Option UInt64 :=
  if b ≤ a then some (a - b) else none

/-- Addition that has no result above the largest word. -/
def exactAdd? (a b : UInt64) : Option UInt64 :=
  if a.toNat + b.toNat < UInt64.size then some (a + b) else none

theorem exactSub?_eq_some_iff {a b c : UInt64} :
    exactSub? a b = some c ↔ c.toNat + b.toNat = a.toNat := by
  unfold exactSub?
  split
  next h =>
    have hsub := UInt64.toNat_sub_of_le a b h
    have hle := UInt64.le_iff_toNat_le.mp h
    rw [Option.some.injEq, ← UInt64.toNat_inj, hsub]
    omega
  next h =>
    have hlt : ¬b.toNat ≤ a.toNat := fun hle => h (UInt64.le_iff_toNat_le.mpr hle)
    simp only [reduceCtorEq, false_iff]
    omega

theorem exactAdd?_eq_some_iff {a b c : UInt64} :
    exactAdd? a b = some c ↔ c.toNat = a.toNat + b.toNat := by
  have hc := c.toNat_lt_size
  unfold exactAdd?
  split
  next h =>
    have hadd : (a + b).toNat = a.toNat + b.toNat := by
      rw [UInt64.toNat_add]
      exact Nat.mod_eq_of_lt h
    rw [Option.some.injEq, ← UInt64.toNat_inj, hadd]
    omega
  next =>
    simp only [reduceCtorEq, false_iff]
    omega

/-- A difference that is exact does not stop at zero. -/
theorem saturatingSub_of_exactSub? {a b c : UInt64} (h : exactSub? a b = some c) :
    saturatingSub a b = c := by
  unfold exactSub? at h
  split at h
  next hle =>
    rw [saturatingSub, if_pos hle]
    exact Option.some.inj h
  next => cases h

/-- A sum that is exact does not stop at the largest word. -/
theorem saturatingAdd_of_exactAdd? {a b c : UInt64} (h : exactAdd? a b = some c) :
    saturatingAdd a b = c := by
  have hsum := exactAdd?_eq_some_iff.mp h
  unfold exactAdd? at h
  split at h
  next =>
    have hc := Option.some.inj h
    have hle : a ≤ a + b := by
      rw [hc, UInt64.le_iff_toNat_le, hsum]
      omega
    rw [saturatingAdd, if_pos hle]
    exact hc
  next => cases h

namespace Counter

/-- What was counted between two readings, if every operation on the way to it is exact. -/
def exactDelta? (c : Counter) (start finish : UInt64) : Option UInt64 :=
  if start ≤ finish then exactSub? finish start
  else (exactSub? c.range start).bind fun rest => exactAdd? rest finish

/-- An exact difference is the one that the counter computes. -/
theorem delta_of_exactDelta? {c : Counter} {start finish n : UInt64}
    (h : c.exactDelta? start finish = some n) : c.delta start finish = n := by
  unfold exactDelta? at h
  unfold delta
  split at h
  next hle =>
    rw [if_pos hle, ← saturatingSub_of_exactSub? h, saturatingSub, if_pos hle]
  next hlt =>
    obtain ⟨rest, hrest, hsum⟩ := Option.bind_eq_some_iff.mp h
    rw [if_neg hlt, saturatingSub_of_exactSub? hrest]
    exact saturatingAdd_of_exactAdd? hsum

/-- The counter went on from one reading to another by less than its range, starting from zero again
where it reached its range. -/
structure Counts (c : Counter) (start finish : UInt64) (consumed : Nat) : Prop where
  start_lt : start.toNat < c.range.toNat
  consumed_lt : consumed < c.range.toNat
  finish_eq : finish.toNat = (start.toNat + consumed) % c.range.toNat

/-- A counter is past the end of its range at most once. -/
theorem Counts.finish_cases {c : Counter} {start finish : UInt64} {consumed : Nat}
    (h : c.Counts start finish consumed) :
    finish.toNat = start.toNat + consumed ∨
      (finish.toNat < start.toNat ∧ finish.toNat + c.range.toNat = start.toNat + consumed) := by
  obtain ⟨hs, hc, hf⟩ := h
  by_cases hlt : start.toNat + consumed < c.range.toNat
  · rw [Nat.mod_eq_of_lt hlt] at hf
    exact Or.inl hf
  · rw [Nat.mod_eq_sub_mod (by omega), Nat.mod_eq_of_lt (by omega)] at hf
    exact Or.inr (by omega)

/-- What a counter has counted is found exactly. -/
theorem Counts.exactDelta? {c : Counter} {start finish n : UInt64}
    (h : c.Counts start finish n.toNat) : c.exactDelta? start finish = some n := by
  have hs := h.start_lt
  unfold Counter.exactDelta?
  rcases h.finish_cases with hf | ⟨hlt, hf⟩
  · have hle : start ≤ finish := by
      rw [UInt64.le_iff_toNat_le]
      omega
    rw [if_pos hle, exactSub?_eq_some_iff]
    omega
  · have hnot : ¬start ≤ finish := by
      rw [UInt64.le_iff_toNat_le]
      omega
    have hle : start ≤ c.range := by
      rw [UInt64.le_iff_toNat_le]
      omega
    have hrest := UInt64.toNat_sub_of_le c.range start hle
    have hsub : exactSub? c.range start = some (c.range - start) := if_pos hle
    rw [if_neg hnot, hsub, Option.bind_some, exactAdd?_eq_some_iff, hrest]
    omega

end Counter

namespace EnergyMeter

/-- The microjoules between two samples, if every operation on the way to them is exact. Without an
accelerator those of the package count alone. -/
def exactBetween? (package : Counter) (accelerator : Option Counter) (start finish : EnergySample) :
    Option UInt64 :=
  (package.exactDelta? start.package finish.package).bind fun p =>
    (accelerator.elim (some 0) fun c => c.exactDelta? start.accelerator finish.accelerator).bind
      (exactAdd? p)

variable {package : Counter} {accelerator : Option Counter} {start finish : EnergySample}

/-- Exact microjoules are the ones that the meter computes. -/
theorem microjoulesBetween_of_exactBetween? {n : UInt64}
    (h : exactBetween? package accelerator start finish = some n) :
    (counters package accelerator).microjoulesBetween start finish = n := by
  obtain ⟨p, hp, h⟩ := Option.bind_eq_some_iff.mp h
  obtain ⟨a, ha, h⟩ := Option.bind_eq_some_iff.mp h
  have hsum : p + a = n := by
    unfold exactAdd? at h
    split at h
    next => exact Option.some.inj h
    next => cases h
  rw [microjoulesBetween, Counter.delta_of_exactDelta? hp, ← hsum]
  cases accelerator with
  | none =>
    cases Option.some.inj ha
    rfl
  | some c => rw [Option.map_some, Option.getD_some, Counter.delta_of_exactDelta? ha]

/-- The joules between two samples are a millionth of what both counters have counted in between. Each
may have started from zero again in its own range, and there may be no accelerator. -/
theorem joulesBetween_of_counts {p a : Nat} (hp : package.Counts start.package finish.package p)
    (ha : ∀ c ∈ accelerator, c.Counts start.accelerator finish.accelerator a)
    (hnone : accelerator = none → a = 0) (hsum : p + a < UInt64.size) :
    ∃ n : UInt64, n.toNat = p + a ∧ exactBetween? package accelerator start finish = some n ∧
      (counters package accelerator).microjoulesBetween start finish = n ∧
      (counters package accelerator).joulesBetween start finish = n.toFloat / 1000000 := by
  have hpn : (UInt64.ofNat p).toNat = p := UInt64.toNat_ofNat_of_lt' (by omega)
  have han : (UInt64.ofNat a).toNat = a := UInt64.toNat_ofNat_of_lt' (by omega)
  have hn : (UInt64.ofNat (p + a)).toNat = p + a := UInt64.toNat_ofNat_of_lt' hsum
  have hpackage : package.exactDelta? start.package finish.package = some (UInt64.ofNat p) :=
    Counter.Counts.exactDelta? (hpn.symm ▸ hp)
  have hexact : exactBetween? package accelerator start finish = some (UInt64.ofNat (p + a)) := by
    rw [exactBetween?, hpackage, Option.bind_some]
    cases accelerator with
    | none =>
      rw [Option.elim_none, Option.bind_some, exactAdd?_eq_some_iff, hn, hpn, hnone rfl]
      rfl
    | some c =>
      have hc : c.exactDelta? start.accelerator finish.accelerator = some (UInt64.ofNat a) :=
        Counter.Counts.exactDelta? (han.symm ▸ ha c rfl)
      rw [Option.elim_some, hc, Option.bind_some, exactAdd?_eq_some_iff, hn, hpn, han]
  have hmicro := microjoulesBetween_of_exactBetween? hexact
  refine ⟨UInt64.ofNat (p + a), hn, hexact, hmicro, ?_⟩
  rw [joulesBetween, hmicro, joules]

/-- A package counter of the largest range and an accelerator counter of a small one, both of which
start from zero again between the samples. -/
theorem joulesBetween_of_counts_twice :
    let package : Counter := ⟨"energy_uj", UInt64.ofNat (UInt64.size - 1)⟩
    let accelerator : Counter := ⟨"gpu/energy_uj", 1000⟩
    let start : EnergySample := ⟨18446744073709551610, 900⟩
    let finish : EnergySample := ⟨5, 899⟩
    package.Counts start.package finish.package 10 ∧
      accelerator.Counts start.accelerator finish.accelerator 999 ∧
      ∃ n : UInt64, n.toNat = 10 + 999 ∧
        exactBetween? package (some accelerator) start finish = some n ∧
        (counters package (some accelerator)).microjoulesBetween start finish = n ∧
        (counters package (some accelerator)).joulesBetween start finish = n.toFloat / 1000000 := by
  intro package accelerator start finish
  have hp : package.Counts start.package finish.package 10 :=
    ⟨by decide, by decide, by decide⟩
  have ha : accelerator.Counts start.accelerator finish.accelerator 999 :=
    ⟨by decide, by decide, by decide⟩
  refine ⟨hp, ha, joulesBetween_of_counts hp ?_ ?_ (by decide)⟩
  · intro c hc
    cases Option.some.inj hc
    exact ha
  · intro h
    cases h

end EnergyMeter

end PatchSearch
