import Mathlib.Data.List.Forall2

/-!
# Runs

Operations that are performed one after another on a state: what each of them gives, and the state
after all of them.

* `runAll` performs a list of operations.
* `runAll_at`: each operation of a run gives what it gives in the state so far.
* `runAll_simulates` takes the agreement of two systems from one operation to whole runs.
-/

namespace LaptopCatalogue

universe u v w

section

variable {ι : Type u} {ρ : Type v} {σ : Type w} (perform : ι → σ → ρ × σ)

/-- Performs operations one after another: each with its result, and the state after them. -/
def runAll : List ι → σ → List (ι × ρ) × σ
  | [], s => ([], s)
  | operation :: operations, s =>
    let (result, s) := perform operation s
    let (transcript, s) := runAll operations s
    ((operation, result) :: transcript, s)

theorem runAll_append (before after : List ι) (s : σ) :
    runAll perform (before ++ after) s =
      ((runAll perform before s).1 ++ (runAll perform after (runAll perform before s).2).1,
        (runAll perform after (runAll perform before s).2).2) := by
  induction before generalizing s with
  | nil => rfl
  | cons operation before ih => simp only [List.cons_append, runAll, ih]

theorem runAll_snoc (before : List ι) (operation : ι) (s : σ) :
    runAll perform (before ++ [operation]) s =
      ((runAll perform before s).1 ++
          [(operation, (perform operation (runAll perform before s).2).1)],
        (perform operation (runAll perform before s).2).2) := by
  rw [runAll_append]
  rfl

theorem length_runAll (operations : List ι) (s : σ) :
    (runAll perform operations s).1.length = operations.length := by
  induction operations generalizing s with
  | nil => rfl
  | cons operation operations ih => simp [runAll, ih]

/-- The result at a place of a run is that of the operation there in the state so far. -/
theorem runAll_at (before after : List ι) (operation : ι) (s : σ) :
    (runAll perform (before ++ operation :: after) s).1[before.length]? =
      some (operation, (perform operation (runAll perform before s).2).1) := by
  have hlength : (runAll perform before s).1.length = before.length :=
    length_runAll perform before s
  rw [runAll_append]
  simp only [runAll]
  rw [List.getElem?_append_right (Nat.le_of_eq hlength), hlength]
  simp

/-- Each result of a run is that of its operation in the state so far. -/
theorem exists_at_of_mem_runAll {operations : List ι} {operation : ι} {result : ρ} {s : σ}
    (h : (operation, result) ∈ (runAll perform operations s).1) :
    ∃ before after, operations = before ++ operation :: after ∧
      result = (perform operation (runAll perform before s).2).1 := by
  induction operations generalizing s with
  | nil => cases h
  | cons first operations ih =>
    rcases List.mem_cons.mp h with hfirst | hlater
    · obtain ⟨rfl, rfl⟩ := Prod.mk.inj hfirst
      exact ⟨[], operations, rfl, rfl⟩
    · obtain ⟨before, after, rfl, hresult⟩ := ih hlater
      exact ⟨first :: before, after, rfl, hresult⟩

/-- Each result of a run is that of its operation in some state. -/
theorem exists_of_mem_runAll {operations : List ι} {operation : ι} {result : ρ} {s : σ}
    (h : (operation, result) ∈ (runAll perform operations s).1) :
    ∃ s', result = (perform operation s').1 := by
  obtain ⟨before, _, _, hresult⟩ := exists_at_of_mem_runAll perform h
  exact ⟨_, hresult⟩

end

section

variable {ι : Type u} {ρ ρ' : Type v} {σ σ' : Type w}

/-- Where corresponding states give corresponding results and stay corresponding, the two systems
agree in every run. -/
theorem runAll_simulates {perform : ι → σ → ρ × σ} {perform' : ι → σ' → ρ' × σ'}
    {related : σ → σ' → Prop} {agree : ρ → ρ' → Prop}
    (hstep : ∀ operation s s', related s s' →
      agree (perform operation s).1 (perform' operation s').1 ∧
      related (perform operation s).2 (perform' operation s').2)
    (operations : List ι) {s : σ} {s' : σ'} (h : related s s') :
    List.Forall₂ (fun entry entry' => entry.1 = entry'.1 ∧ agree entry.2 entry'.2)
        (runAll perform operations s).1 (runAll perform' operations s').1 ∧
      related (runAll perform operations s).2 (runAll perform' operations s').2 := by
  induction operations generalizing s s' with
  | nil => exact ⟨.nil, h⟩
  | cons operation operations ih =>
    obtain ⟨hagree, hrelated⟩ := hstep operation s s' h
    obtain ⟨hrest, hlast⟩ := ih hrelated
    exact ⟨.cons ⟨rfl, hagree⟩ hrest, hlast⟩

end

end LaptopCatalogue
