import LaptopCatalogue.Laptop.Qualification
import LaptopCatalogue.Proofs.Store.Enumeration
import LaptopCatalogue.Proofs.Service.Registry

/-!
# Bounds that are not set

Each of the four bounds of a filter can be left unset. Three of them then ask for nothing. The bound
on the clock is compared even if it is zero, so it asks for a clock that is not below zero: a laptop
with a negative clock is within no filter that has a clock bound of zero, the empty filter among
them.

* `Filter.Meets` takes the bounds one by one, `Filter.qualifies_iff` puts them together.
* `Filter.Unsets` changes one bound and leaves the others.
* `unset_bounds_pass_clocks_from_zero` is the statement about all filters and laptops, and about the
  searches of every catalogue that operations lead to.
-/

namespace LaptopCatalogue

namespace Binary64

/-- Whether a number is below zero. Neither zero is, and no NaN. -/
def belowZero (x : Binary64) : Bool := x.isNegative && !x.isZero && !x.isNaN

/-- Both zeros are above the same numbers. -/
theorem lt_of_isZero {zero : Binary64} (h : zero.isZero) (x : Binary64) :
    x.lt zero = x.belowZero := by
  have hmagnitude : zero.magnitude = 0 := by simpa [isZero] using h
  have hnumber : zero.isNaN = false := by simp [isNaN, hmagnitude]
  have hrank : zero.rank = 0 := by simp [rank, hmagnitude]
  -- minus zero has the sign but the rank of zero
  have hbelow : decide (x.rank < 0) = (x.isNegative && !x.isZero) := by
    rw [Bool.eq_iff_iff]
    unfold rank isZero
    cases x.isNegative with
    | false => simp
    | true =>
      simp
      omega
  unfold lt belowZero
  rw [hnumber, hrank, hbelow]
  cases x.isNaN <;> simp

end Binary64

/-! ## One bound at a time -/

inductive Bound where
  | price
  | cores
  | clock
  | memory
deriving DecidableEq, Repr

namespace Filter

def Meets (filter : Filter) (laptop : Laptop) : Bound → Prop
  | .price => filter.priceFits laptop
  | .cores => filter.minCpuCores ≤ laptop.cores
  | .clock => ¬laptop.minGhz.lt filter.minCpuGhz
  | .memory => bitsOrZero filter.minRam ≤ bitsOrZero laptop.ram

/-- Whether a bound is unset: there is no price, or the least amount is none. Both zeros are a clock
of zero, and memory of no bits may be written in several ways. -/
def IsUnset (filter : Filter) : Bound → Prop
  | .price => filter.maxPriceUsd = none
  | .cores => filter.minCpuCores = 0
  | .clock => filter.minCpuGhz.isZero
  | .memory => bitsOrZero filter.minRam = 0

/-- The second filter is the first one with a bound unset. -/
inductive Unsets : Bound → Filter → Filter → Prop where
  | price (filter : Filter) : Unsets .price filter { filter with maxPriceUsd := none }
  | cores (filter : Filter) : Unsets .cores filter { filter with minCpuCores := 0 }
  | clock (filter : Filter) {zero : Binary64} (hzero : zero.isZero) :
      Unsets .clock filter { filter with minCpuGhz := zero }
  | memory (filter : Filter) {ram : Option Memory} (hram : bitsOrZero ram = 0) :
      Unsets .memory filter { filter with minRam := ram }

/-- A laptop qualifies if it is within each bound. -/
theorem qualifies_iff (filter : Filter) (laptop : Laptop) :
    filter.qualifies laptop ↔ ∀ bound, filter.Meets laptop bound := by
  unfold qualifies
  simp only [Bool.and_eq_true, decide_eq_true_eq, Bool.not_eq_true']
  constructor
  · rintro ⟨⟨⟨hprice, hcores⟩, hclock⟩, hmemory⟩ bound
    cases bound with
    | price => exact hprice
    | cores => exact hcores
    | clock => exact Bool.eq_false_iff.mp hclock
    | memory => exact hmemory
  · intro h
    exact ⟨⟨⟨h .price, h .cores⟩, Bool.eq_false_iff.mpr (h .clock)⟩, h .memory⟩

/-- What an unset bound asks for: nothing, unless it is the bound on the clock. -/
theorem meets_iff_of_isUnset {filter : Filter} {bound : Bound} (h : filter.IsUnset bound)
    (laptop : Laptop) :
    filter.Meets laptop bound ↔ (bound = .clock → ¬laptop.minGhz.belowZero) := by
  cases bound with
  | price =>
    have hprice : filter.maxPriceUsd = none := h
    simp [Meets, priceFits, hprice]
  | cores =>
    have hcores : filter.minCpuCores = 0 := h
    simp [Meets, hcores]
  | clock => simp [Meets, Binary64.lt_of_isZero h]
  | memory =>
    have hmemory : bitsOrZero filter.minRam = 0 := h
    simp [Meets, hmemory]

namespace Unsets

variable {bound : Bound} {filter filter' : Filter}

theorem isUnset (h : Unsets bound filter filter') : filter'.IsUnset bound := by
  cases h with
  | price => rfl
  | cores => rfl
  | clock _ hzero => exact hzero
  | memory _ hram => exact hram

/-- The other bounds stay as they are. -/
theorem meets_iff (h : Unsets bound filter filter') {other : Bound} (hother : other ≠ bound)
    (laptop : Laptop) : filter'.Meets laptop other ↔ filter.Meets laptop other := by
  cases h <;> cases other <;> first | rfl | exact absurd rfl hother

end Unsets

/-- Without any bound a laptop qualifies unless its clock is below zero. -/
theorem qualifies_of_isUnset {filter : Filter} (h : ∀ bound, filter.IsUnset bound)
    (laptop : Laptop) : filter.qualifies laptop ↔ ¬laptop.minGhz.belowZero := by
  rw [qualifies_iff]
  constructor
  · intro hmeets
    exact (meets_iff_of_isUnset (h .clock) laptop).mp (hmeets .clock) rfl
  · intro hclock bound
    exact (meets_iff_of_isUnset (h bound) laptop).mpr fun _ => hclock

/-- With one bound unset a laptop qualifies if it is within the others, and, if it is the bound on
the clock, has none below zero. -/
theorem qualifies_of_unsets {bound : Bound} {filter filter' : Filter}
    (h : Unsets bound filter filter') (laptop : Laptop) :
    filter'.qualifies laptop ↔
      (∀ other, other ≠ bound → filter.Meets laptop other) ∧
        (bound = .clock → ¬laptop.minGhz.belowZero) := by
  rw [qualifies_iff, ← meets_iff_of_isUnset h.isUnset]
  constructor
  · intro hmeets
    exact ⟨fun other hother => (h.meets_iff hother laptop).mp (hmeets other), hmeets bound⟩
  · rintro ⟨hothers, hbound⟩ other
    by_cases hother : other = bound
    · exact hother ▸ hbound
    · exact (h.meets_iff hother laptop).mpr (hothers other hother)

theorem isUnset_default (bound : Bound) : ({} : Filter).IsUnset bound := by
  cases bound <;> rfl

end Filter

/-! ## Searches without a filter -/

/-- A stream gives its client one collection of laptops only. -/
theorem Streams.eq {stream : Stream} {laptops laptops' : Multiset Laptop}
    (h : Streams stream laptops) (h' : Streams stream laptops') : laptops = laptops' := by
  obtain ⟨final, hfinal⟩ := h.ends
  have hitems : laptops.map Item.laptop = laptops'.map Item.laptop :=
    (h.received_eq final hfinal).symm.trans (h'.received_eq final hfinal)
  exact Multiset.map_injective (fun _ _ => Item.laptop.inj) hitems

namespace Catalogue

def records (catalogue : Catalogue) : List Laptop := catalogue.entries.map Prod.snd

/-- A search without a filter streams the records whose clock is not below zero. -/
theorem streams_without_filter (listing : Listing) (buffer : Nat) (catalogue : Catalogue) :
    Streams (Stream.start buffer (catalogue.scanBy listing {}))
      (catalogue.records.filter fun laptop => !laptop.minGhz.belowZero : List Laptop) := by
  have hlaptops : ((catalogue.scanBy listing {}).laptops : Multiset Laptop) =
      (catalogue.records.filter fun laptop => !laptop.minGhz.belowZero : List Laptop) := by
    have hfilter : Filter.qualifies {} = fun laptop => !laptop.minGhz.belowZero := by
      funext laptop
      rw [Bool.eq_iff_iff, Filter.qualifies_of_isUnset Filter.isUnset_default]
      simp
    rw [Multiset.coe_eq_coe, ← hfilter]
    exact scanBy_laptops_perm listing catalogue {}
  rw [← hlaptops]
  exact start_streams buffer _

end Catalogue

/-- Unset bounds let pass every laptop whose clock is not below zero, and no other. A filter in
which no bound is set is met by exactly these laptops. In any filter, unsetting a bound leaves the
conjunction of the others, but for the clock, which still must not be below zero. And in every
catalogue that operations lead to, for every order of its records and every buffer that can be made,
a search without a filter streams each such record once and nothing else, so it streams every record
exactly if no clock is below zero. -/
theorem unset_bounds_pass_clocks_from_zero (filter : Filter) (laptop : Laptop) (listing : Listing)
    {buffer : Nat} (hadmitted : Stream.capacityFor buffer ≤ Stream.maxCapacity)
    {catalogue : Catalogue} (hreachable : catalogue.Reachable) :
    ((∀ bound, filter.IsUnset bound) →
      (filter.qualifies laptop ↔ ¬laptop.minGhz.belowZero)) ∧
    (∀ bound filter', Filter.Unsets bound filter filter' →
      (filter'.qualifies laptop ↔
        (∀ other, other ≠ bound → filter.Meets laptop other) ∧
          (bound = .clock → ¬laptop.minGhz.belowZero))) ∧
    catalogue.records.Nodup ∧
    ∃ stream,
      (Service.search (Catalogue.storeBy listing) buffer {} catalogue).2 =
        (some stream, catalogue) ∧
      Streams stream
        (catalogue.records.filter fun laptop => !laptop.minGhz.belowZero : List Laptop) ∧
      (Streams stream (catalogue.records : List Laptop) ↔
        ∀ laptop ∈ catalogue.records, ¬laptop.minGhz.belowZero) := by
  obtain ⟨history, hreflects⟩ := hreachable.reflects
  have hstreams := catalogue.streams_without_filter listing buffer
  refine ⟨?_, ?_, hreflects.nodup_laptops, _, ?_, hstreams, ?_⟩
  · intro hunset
    exact Filter.qualifies_of_isUnset hunset laptop
  · intro bound filter' hunsets
    exact Filter.qualifies_of_unsets hunsets laptop
  · simp only [Service.search, hadmitted, if_true]
    rfl
  · constructor
    · -- what is streamed has all records, so none of them was left out
      intro hall
      have hperm := Multiset.coe_eq_coe.mp (hstreams.eq hall)
      have hkept := List.length_filter_eq_length_iff.mp hperm.length_eq
      simpa using hkept
    · intro hnone
      have hkept : (catalogue.records.filter fun laptop => !laptop.minGhz.belowZero) =
          catalogue.records := by
        simpa using hnone
      rw [hkept] at hstreams
      exact hstreams

/-- Two records, of which one has a clock of minus one. -/
theorem unset_bounds_pass_clocks_from_zero_minus_one :
    let minusOne : Laptop := { id := "b", cpu := some { minGhz := ⟨0xbff0000000000000⟩ } }
    let catalogue := Catalogue.stateAfter .bySaving [.save { id := "a" }, .save minusOne]
    catalogue.Reachable ∧ Stream.capacityFor 4 ≤ Stream.maxCapacity ∧
      (∀ bound, ({} : Filter).IsUnset bound) ∧ ¬({} : Filter).qualifies minusOne ∧
      Filter.Unsets .cores { minCpuCores := 1 } {} ∧
      (({} : Filter).qualifies minusOne ↔
        (∀ other, other ≠ .cores → ({ minCpuCores := 1 } : Filter).Meets minusOne other) ∧
          (Bound.cores = .clock → ¬minusOne.minGhz.belowZero)) ∧
      ∃ stream, (Service.search (Catalogue.storeBy .bySaving) 4 {} catalogue).2 =
          (some stream, catalogue) ∧
        Streams stream ([{ id := "a" }] : List Laptop) ∧
        ¬Streams stream (catalogue.records : List Laptop) := by
  intro minusOne catalogue
  have hreachable : catalogue.Reachable := ⟨_, _, rfl⟩
  have hadmitted : Stream.capacityFor 4 ≤ Stream.maxCapacity := by decide
  have hcores : Filter.Unsets .cores { minCpuCores := 1 } {} := .cores _
  have hbelow : minusOne.minGhz.belowZero := by decide
  obtain ⟨hqualifies, _, _, stream, hstart, hstreams, hall⟩ :=
    unset_bounds_pass_clocks_from_zero {} minusOne .bySaving hadmitted hreachable
  obtain ⟨_, hunsets, _⟩ := unset_bounds_pass_clocks_from_zero { minCpuCores := 1 } minusOne
    .bySaving hadmitted hreachable
  have hexcluded : ¬({} : Filter).qualifies minusOne := fun h =>
    (hqualifies Filter.isUnset_default).mp h hbelow
  refine ⟨hreachable, hadmitted, Filter.isUnset_default, hexcluded, hcores,
    hunsets .cores {} hcores, stream, hstart, ?_, ?_⟩
  · have hkept : (catalogue.records.filter fun laptop => !laptop.minGhz.belowZero) =
        [{ id := "a" }] := by decide +kernel +zetaReduce
    rw [hkept] at hstreams
    exact hstreams
  · intro hevery
    have hmem : minusOne ∈ catalogue.records := by decide +kernel +zetaReduce
    exact hall.mp hevery minusOne hmem hbelow

/-- The empty filter, in which no bound is set, does not let a clock of minus one pass. -/
theorem unset_filter_excludes_minus_one :
    ¬∀ (filter : Filter) (laptop : Laptop), (∀ bound, filter.IsUnset bound) →
      filter.qualifies laptop := by
  intro h
  have hqualifies := h {} { cpu := some { minGhz := ⟨0xbff0000000000000⟩ } } Filter.isUnset_default
  exact absurd hqualifies (by decide)

end LaptopCatalogue
