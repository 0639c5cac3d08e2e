import LaptopCatalogue.Proofs.Store.History

/-!
# Searches as enumerations

A search of a catalogue hands over each record that qualifies, once, until its receiver refuses one.
The order is that of the listing, whatever it is, and the receiver may keep a state of its own.

* `Scan.noting` notes the calls of a receiver and does not disturb it.
* `Scan.HandedOver` says which calls a search makes and how it ends.
* `Catalogue.search_hands_over_matches` is the statement about every catalogue that operations lead
  to: the laptops handed over are those that looking up finds.
-/

namespace LaptopCatalogue

namespace Scan

/-! ## The calls of a receiver -/

/-- What a receiver was given and what it answered, the first call first. -/
abbrev Calls : Type := List (Laptop × Except StoreError Unit)

/-- The call of a receiver that accepts a laptop. -/
def accepted (laptop : Laptop) : Laptop × Except StoreError Unit := (laptop, .ok ())

variable {σ : Type}

/-- Lets a receiver do its work and notes its calls. -/
def noting (receive : Laptop → σ → Except StoreError Unit × σ) :
    Laptop → σ × Calls → Except StoreError Unit × σ × Calls
  | laptop, (s, calls) =>
    let (answer, s) := receive laptop s
    (answer, s, calls ++ [(laptop, answer)])

/-- Whether a receiver accepts so many laptops, whichever they are, and then refuses. -/
def AcceptsOnly (limit : Nat) (receive : Laptop → σ → Except StoreError Unit × σ) (s : σ) :
    Prop :=
  ∀ laptops, (handOver receive laptops s).1 = .ok () ↔ laptops.length ≤ limit

/-- Handing over with noted calls does what handing over does. Either all laptops were accepted, or
the last call refused one and its error is the result. -/
theorem handOver_noting (receive : Laptop → σ → Except StoreError Unit × σ)
    (laptops : List Laptop) (s : σ) (before : Calls) :
    ∃ calls,
      handOver (noting receive) laptops (s, before) =
        ((handOver receive laptops s).1, (handOver receive laptops s).2, before ++ calls) ∧
      (((handOver receive laptops s).1 = .ok () ∧ calls = laptops.map accepted) ∨
        ∃ front laptop rest error, laptops = front ++ laptop :: rest ∧
          calls = front.map accepted ++ [(laptop, .error error)] ∧
          (handOver receive laptops s).1 = .error error ∧
          (handOver receive front s).1 = .ok () ∧
          (handOver receive (front ++ [laptop]) s).1 = .error error) := by
  induction laptops generalizing s before with
  | nil => exact ⟨[], by simp [handOver], Or.inl ⟨rfl, rfl⟩⟩
  | cons laptop laptops ih =>
    rcases hcall : receive laptop s with ⟨answer, s'⟩
    cases answer with
    | error error =>
      -- the first laptop is refused: nothing else is handed over
      refine ⟨[(laptop, .error error)], ?_, Or.inr ⟨[], laptop, laptops, error, ?_⟩⟩
      · simp [handOver, noting, hcall]
      · simp [handOver, hcall]
    | ok _ =>
      obtain ⟨calls, hnoted, hend⟩ := ih s' (before ++ [accepted laptop])
      refine ⟨accepted laptop :: calls, ?_, ?_⟩
      · have hfirst : noting receive laptop (s, before) =
            (.ok (), s', before ++ [accepted laptop]) := by
          simp [noting, hcall, accepted]
        simp [handOver, hfirst, hcall, hnoted]
      · rcases hend with ⟨hok, hcalls⟩ | ⟨front, last, rest, error, hsplit, hcalls, herror,
          hfront, hlast⟩
        · left
          exact ⟨by simpa [handOver, hcall] using hok, by simp [hcalls]⟩
        · right
          refine ⟨laptop :: front, last, rest, error, ?_, ?_, ?_, ?_, ?_⟩
          · simp [hsplit]
          · simp [hcalls]
          · simpa [handOver, hcall] using herror
          · simpa [handOver, hcall] using hfront
          · simpa [handOver, hcall] using hlast

/-- How a search ends that could hand over the given laptops and would then succeed: its calls are
about the first of them, each once; if none refuses, all are handed over and the search succeeds; if
one refuses, it is the last, and its error is the outcome. -/
structure HandedOver (found : List Laptop) (receive : Laptop → σ → Except StoreError Unit × σ)
    (s : σ) (outcome : Outcome Unit) (calls : Calls) : Prop where
  called : calls.map Prod.fst <+: found
  ended :
    (outcome = .returned () ∧ calls = found.map accepted) ∨
    ∃ front laptop rest error, found = front ++ laptop :: rest ∧
      calls = front.map accepted ++ [(laptop, .error error)] ∧ outcome = .failed error
  limited : ∀ limit, AcceptsOnly limit receive s →
    calls.length = min (limit + 1) found.length ∧
    ((∃ error, outcome = .failed error) ↔ limit < found.length)

/-- A search that succeeds unless it is stopped is an early-exit fold. -/
theorem run_noting (found : List Laptop) (receive : Laptop → σ → Except StoreError Unit × σ)
    (s : σ) :
    ∃ outcome s' calls,
      (Scan.mk found (.returned ())).run (noting receive) (s, []) = (outcome, s', calls) ∧
      (Scan.mk found (.returned ())).run receive s = (outcome, s') ∧
      HandedOver found receive s outcome calls := by
  obtain ⟨calls, hnoted, hend⟩ := handOver_noting receive found s []
  rcases hresult : handOver receive found s with ⟨answer, s'⟩
  rw [hresult] at hnoted hend
  rcases hend with ⟨hok, hcalls⟩ | ⟨front, laptop, rest, error, hsplit, hcalls, herror, hfront,
    hlast⟩
  · -- nobody refused
    subst hok
    refine ⟨.returned (), s', calls, run_of_accepted hnoted, run_of_accepted hresult, ?_⟩
    refine ⟨?_, Or.inl ⟨rfl, hcalls⟩, ?_⟩
    · simp [hcalls, accepted, Function.comp_def]
    · intro limit honly
      have hle : found.length ≤ limit := (honly found).mp (by rw [hresult])
      simp only [hcalls, List.length_map, reduceCtorEq, exists_false, false_iff, not_lt]
      omega
  · subst herror
    refine ⟨.failed error, s', calls, run_of_refused hnoted, run_of_refused hresult, ?_⟩
    refine ⟨?_, Or.inr ⟨front, laptop, rest, error, hsplit, hcalls, rfl⟩, ?_⟩
    · simp [hcalls, hsplit, accepted, Function.comp_def]
    · -- the front was accepted and one laptop more was not, which fixes the limit
      intro limit honly
      have hfits : front.length ≤ limit := (honly front).mp hfront
      have hover : ¬(front ++ [laptop]).length ≤ limit := by
        rw [← honly, hlast]
        simp
      simp only [List.length_append, List.length_singleton] at hover
      simp only [hcalls, hsplit, List.length_append, List.length_map, List.length_cons,
        List.length_nil, Outcome.failed.injEq, exists_eq', true_iff]
      omega

/-! ## A receiver with a limit -/

/-- A receiver that accepts so many laptops and then refuses with an error. Its state is the number
of its calls. -/
def acceptFirst (limit : Nat) (error : StoreError) : Laptop → Nat → Except StoreError Unit × Nat :=
  fun _ calls => (if calls < limit then .ok () else .error error, calls + 1)

theorem handOver_acceptFirst (limit : Nat) (error : StoreError) (laptops : List Laptop)
    (calls : Nat) :
    (handOver (acceptFirst limit error) laptops calls).1 = .ok () ↔
      laptops = [] ∨ calls + laptops.length ≤ limit := by
  induction laptops generalizing calls with
  | nil => simp [handOver]
  | cons laptop laptops ih =>
    by_cases hfits : calls < limit
    · have hcall : acceptFirst limit error laptop calls = (.ok (), calls + 1) := by
        simp [acceptFirst, hfits]
      simp only [handOver, hcall, ih]
      cases laptops with
      | nil => simp; omega
      | cons _ _ => simp; omega
    · have hcall : acceptFirst limit error laptop calls = (.error error, calls + 1) := by
        simp [acceptFirst, hfits]
      simp [handOver, hcall]
      omega

theorem acceptFirst_acceptsOnly (limit : Nat) (error : StoreError) :
    AcceptsOnly limit (acceptFirst limit error) 0 := by
  intro laptops
  rw [handOver_acceptFirst]
  cases laptops with
  | nil => simp
  | cons _ _ => simp

end Scan

namespace Catalogue

open Scan

/-! ## Records and looking up -/

/-- Where no id has two records, looking up finds exactly the records that are listed. -/
theorem find?_eq_some_iff {catalogue : Catalogue}
    (hunique : (catalogue.entries.map Prod.fst).Nodup) (id : String) (laptop : Laptop) :
    catalogue.find? id = some laptop ↔ (id, laptop) ∈ catalogue.entries := by
  unfold find?
  rw [List.lookup_eq_some_iff]
  constructor
  · rintro ⟨front, rest, hsplit, _⟩
    rw [hsplit]
    exact List.mem_append_right _ List.mem_cons_self
  · intro hmem
    obtain ⟨front, rest, hsplit⟩ := List.append_of_mem hmem
    refine ⟨front, rest, hsplit, ?_⟩
    intro entry hentry
    rw [hsplit, List.map_append, List.nodup_append] at hunique
    have hne : entry.1 ≠ id :=
      hunique.2.2 entry.1 (List.mem_map_of_mem hentry) id (by simp)
    simpa using hne.symm

/-- Each record stands once in a catalogue that holds what a history says. -/
theorem Reflects.nodup_laptops {history : List Operation} {catalogue : Catalogue}
    (h : Reflects history catalogue) : (catalogue.entries.map Prod.snd).Nodup := by
  have hids : (catalogue.entries.map Prod.snd).map Laptop.id = catalogue.entries.map Prod.fst := by
    rw [List.map_map]
    exact List.map_congr_left fun entry hentry => (h.keyed entry hentry).symm
  exact List.Nodup.of_map Laptop.id (hids ▸ h.unique)

/-- The stored records are those that looking up their own id finds. -/
theorem Reflects.mem_laptops_iff {history : List Operation} {catalogue : Catalogue}
    (h : Reflects history catalogue) (laptop : Laptop) :
    laptop ∈ catalogue.entries.map Prod.snd ↔ catalogue.find? laptop.id = some laptop := by
  rw [find?_eq_some_iff h.unique, List.mem_map]
  constructor
  · rintro ⟨⟨id, kept⟩, hentry, rfl⟩
    have hid : id = kept.id := h.keyed _ hentry
    exact hid ▸ hentry
  · intro hentry
    exact ⟨(laptop.id, laptop), hentry, rfl⟩

/-! ## Searching -/

/-- Whether operations lead from a new catalogue to this one. -/
def Reachable (catalogue : Catalogue) : Prop :=
  ∃ listing history, stateAfter listing history = catalogue

theorem Reachable.reflects {catalogue : Catalogue} (h : Reachable catalogue) :
    ∃ history, Reflects history catalogue := by
  obtain ⟨listing, history, rfl⟩ := h
  exact ⟨history, reflects_stateAfter listing history⟩

/-- A search is an early-exit fold over an exact enumeration. In every catalogue that operations
lead to, for every order of its records and every filter, there is a list of the stored laptops that
qualify, each once, which are the laptops that looking up finds and that qualify; every receiver is
given these in turn until it refuses one, and the catalogue stays as it is. -/
theorem search_hands_over_matches {catalogue : Catalogue} (hreachable : Reachable catalogue)
    (listing : Listing) (filter : Filter) :
    ∃ found : List Laptop,
      found.Nodup ∧
      found.Perm ((catalogue.entries.map Prod.snd).filter filter.qualifies) ∧
      (∀ laptop, laptop ∈ found ↔
        catalogue.find? laptop.id = some laptop ∧ filter.qualifies laptop) ∧
      ∀ (σ : Type) (receive : Laptop → σ → Except StoreError Unit × σ) (s : σ),
        ∃ scan outcome s' calls,
          (storeBy listing).search filter catalogue = (scan, catalogue) ∧
          scan.run receive s = (outcome, s') ∧
          scan.run (noting receive) (s, []) = (outcome, s', calls) ∧
          HandedOver found receive s outcome calls := by
  obtain ⟨history, hreflects⟩ := hreachable.reflects
  have hperm := scanBy_laptops_perm listing catalogue filter
  refine ⟨(catalogue.scanBy listing filter).laptops, ?_, hperm, ?_, ?_⟩
  · exact hperm.nodup_iff.mpr (hreflects.nodup_laptops.filter filter.qualifies)
  · intro laptop
    rw [hperm.mem_iff, List.mem_filter, hreflects.mem_laptops_iff]
  · intro σ receive s
    obtain ⟨outcome, s', calls, hnoted, hplain, hover⟩ :=
      run_noting (catalogue.scanBy listing filter).laptops receive s
    exact ⟨catalogue.scanBy listing filter, outcome, s', calls, rfl, hplain, hnoted, hover⟩

/-- Three records, one of them too dear, and a receiver that accepts one laptop. -/
theorem search_hands_over_matches_limited :
    let operations : List Operation :=
      [.save { id := "a" }, .save { id := "b", priceUsd := ⟨0x4000000000000000⟩ },
        .save { id := "c" }, .save { id := "d" }]
    let filter : Filter := { maxPriceUsd := some .zero }
    Reachable (stateAfter .bySaving operations) ∧
      AcceptsOnly 1 (acceptFirst 1 .emptyId) 0 ∧
      ∃ scan error s' calls,
        (storeBy .bySaving).search filter (stateAfter .bySaving operations) =
          (scan, stateAfter .bySaving operations) ∧
        scan.run (noting (acceptFirst 1 .emptyId)) (0, []) = (.failed error, s', calls) ∧
        calls.length = 2 := by
  intro operations filter
  have hreachable : Reachable (stateAfter .bySaving operations) := ⟨_, _, rfl⟩
  have honly : AcceptsOnly 1 (acceptFirst 1 .emptyId) 0 := acceptFirst_acceptsOnly 1 .emptyId
  refine ⟨hreachable, honly, ?_⟩
  obtain ⟨found, _, hperm, _, hsearch⟩ :=
    search_hands_over_matches hreachable .bySaving filter
  obtain ⟨scan, outcome, s', calls, hscan, _, hnoted, hover⟩ :=
    hsearch Nat (acceptFirst 1 .emptyId) 0
  have hlength : found.length = 3 := by
    rw [hperm.length_eq]
    decide
  obtain ⟨hcount, hfails⟩ := hover.limited 1 honly
  obtain ⟨error, hfailed⟩ := hfails.mpr (by rw [hlength]; decide)
  exact ⟨scan, error, s', calls, hscan, hfailed ▸ hnoted, by rw [hcount, hlength]; rfl⟩

end Catalogue

end LaptopCatalogue
