import LaptopCatalogue.Proofs.Number.Order
import LaptopCatalogue.Proofs.Laptop.Bounds

/-!
# Looser filters and better laptops

A filter may ask for less than another, and a laptop may offer more than another. What qualifies
keeps qualifying when the filter gets looser and the laptop better, so a looser search finds
everything that the stricter one found.

* `Filter.NoStricterThan` and `Laptop.NoWorseThan` compare bound by bound. A NaN bounds nothing, and
  a NaN price or clock is excluded by nothing.
* `Filter.Meets.mono` takes a single bound from one pair to the other.
* `looser_filters_keep_matches` is the statement about all filters, laptops and catalogues.
-/

namespace LaptopCatalogue

/-! ## Asking for less, offering more -/

/-- One filter asks for nothing that the other does not ask for. -/
structure Filter.NoStricterThan (looser stricter : Filter) : Prop where
  /-- Where it bounds the price at all, so does the other, and not above it. -/
  price : ∀ bound, looser.maxPriceUsd = some bound →
    bound.isNaN ∨ ∃ lower, stricter.maxPriceUsd = some lower ∧ lower.AtMost bound
  cores : looser.minCpuCores ≤ stricter.minCpuCores
  clock : looser.minCpuGhz.isNaN ∨ looser.minCpuGhz.AtMost stricter.minCpuGhz
  memory : bitsOrZero looser.minRam ≤ bitsOrZero stricter.minRam

/-- One laptop offers all that the other does, for no higher price. -/
structure Laptop.NoWorseThan (better worse : Laptop) : Prop where
  price : better.priceUsd.isNaN ∨ better.priceUsd.AtMost worse.priceUsd
  cores : worse.cores ≤ better.cores
  clock : better.minGhz.isNaN ∨ worse.minGhz.AtMost better.minGhz
  memory : bitsOrZero worse.ram ≤ bitsOrZero better.ram

theorem Laptop.NoWorseThan.refl (laptop : Laptop) : laptop.NoWorseThan laptop where
  price := laptop.priceUsd.isNaN_or_atMost_self
  cores := UInt32.le_refl _
  clock := laptop.minGhz.isNaN_or_atMost_self
  memory := UInt64.le_refl _

/-! ## What qualifies keeps qualifying -/

namespace Filter

/-- A price is within the bound unless there is one below it. -/
theorem meets_price_iff (filter : Filter) (laptop : Laptop) :
    filter.Meets laptop .price ↔
      ∀ bound, filter.maxPriceUsd = some bound → ¬bound.lt laptop.priceUsd := by
  simp only [Meets, priceFits]
  cases filter.maxPriceUsd with
  | none => simp
  | some bound => simp

section

variable {stricter looser : Filter} {worse better : Laptop}

/-- Each bound by itself is still met. Price and clock are the same comparison: what is not below a
bound stays so when it goes up and the bound goes down. -/
theorem Meets.mono (hfilter : looser.NoStricterThan stricter) (hlaptop : better.NoWorseThan worse)
    {bound : Bound} (h : stricter.Meets worse bound) : looser.Meets better bound := by
  cases bound with
  | price =>
    rw [meets_price_iff] at h ⊢
    intro highest hhighest
    rcases hfilter.price highest hhighest with hnan | ⟨lower, hlower, hle⟩
    · rw [Binary64.not_lt_iff]
      exact .inl hnan
    · exact Binary64.not_lt_of_atMost (h lower hlower) (.inr hle) hlaptop.price
  | cores => exact UInt32.le_trans hfilter.cores (UInt32.le_trans h hlaptop.cores)
  | clock => exact Binary64.not_lt_of_atMost h hlaptop.clock hfilter.clock
  | memory => exact UInt64.le_trans hfilter.memory (UInt64.le_trans h hlaptop.memory)

theorem qualifies_mono (hfilter : looser.NoStricterThan stricter)
    (hlaptop : better.NoWorseThan worse) (h : stricter.qualifies worse) :
    looser.qualifies better := by
  rw [qualifies_iff] at h ⊢
  intro bound
  exact (h bound).mono hfilter hlaptop

end

end Filter

/-! ## Searches -/

namespace Catalogue

/-- A search over a channel that can be made streams the records that qualify, each once. -/
theorem search_streams (listing : Listing) {buffer : Nat}
    (hadmitted : Stream.capacityFor buffer ≤ Stream.maxCapacity) (filter : Filter)
    (catalogue : Catalogue) :
    ∃ stream, (Service.search (storeBy listing) buffer { filter := some filter } catalogue).2 =
        (some stream, catalogue) ∧
      Streams stream (catalogue.records.filter filter.qualifies : List Laptop) := by
  refine ⟨Stream.start buffer (catalogue.scanBy listing filter), ?_, ?_⟩
  · rw [Service.search_of_admitted _ _ _ hadmitted]
    rfl
  · have hperm := Multiset.coe_eq_coe.mpr (scanBy_laptops_perm listing catalogue filter)
    have hstreams := start_streams buffer (catalogue.scanBy listing filter).laptops
    rw [hperm] at hstreams
    exact hstreams

/-- A looser filter selects at least the same records. -/
theorem filter_qualifies_sublist {stricter looser : Filter}
    (hfilter : looser.NoStricterThan stricter) (catalogue : Catalogue) :
    (catalogue.records.filter stricter.qualifies).Sublist
      (catalogue.records.filter looser.qualifies) := by
  apply List.monotone_filter_right
  intro laptop h
  exact Filter.qualifies_mono hfilter (.refl laptop) h

end Catalogue

/-- Of two filters of which the second asks for nothing more, and two laptops of which the second
offers nothing less, the second pair qualifies if the first does. So loosening a filter loses no
result: in every catalogue, in whatever order its records are listed and with any buffers that can
be made, the looser search streams every record that the stricter one streams. -/
theorem looser_filters_keep_matches {stricter looser : Filter}
    (hfilter : looser.NoStricterThan stricter) {worse better : Laptop}
    (hlaptop : better.NoWorseThan worse) (catalogue : Catalogue) (listing listing' : Listing)
    {buffer buffer' : Nat} (hadmitted : Stream.capacityFor buffer ≤ Stream.maxCapacity)
    (hadmitted' : Stream.capacityFor buffer' ≤ Stream.maxCapacity) :
    (stricter.qualifies worse → looser.qualifies better) ∧
    ∃ stream stream', ∃ found found' : Multiset Laptop,
      (Service.search (Catalogue.storeBy listing) buffer { filter := some stricter }
          catalogue).2 = (some stream, catalogue) ∧
      (Service.search (Catalogue.storeBy listing') buffer' { filter := some looser }
          catalogue).2 = (some stream', catalogue) ∧
      Streams stream found ∧ Streams stream' found' ∧ found ≤ found' := by
  obtain ⟨stream, hsearch, hstreams⟩ := catalogue.search_streams listing hadmitted stricter
  obtain ⟨stream', hsearch', hstreams'⟩ := catalogue.search_streams listing' hadmitted' looser
  have hsublist := Catalogue.filter_qualifies_sublist hfilter catalogue
  exact ⟨Filter.qualifies_mono hfilter hlaptop, stream, stream', _, _, hsearch, hsearch', hstreams,
    hstreams', Multiset.coe_le.mpr hsublist.subperm⟩

/-- A price bound goes up to infinity and a clock bound from zero to minus zero, while the price
becomes a NaN, the clock goes up to infinity and the memory beyond 64 bits. -/
theorem looser_filters_keep_matches_infinite :
    let stricter : Filter :=
      { maxPriceUsd := some ⟨0x408f400000000000⟩, minCpuCores := 4, minRam := some ⟨4, 5⟩ }
    let looser : Filter :=
      { maxPriceUsd := some ⟨0x7ff0000000000000⟩, minCpuCores := 2
        minCpuGhz := ⟨0x8000000000000000⟩, minRam := some ⟨4096, 4⟩ }
    let worse : Laptop :=
      { id := "a", priceUsd := ⟨0x408f400000000000⟩, ram := some ⟨4, 5⟩
        cpu := some { numberCores := 4, minGhz := ⟨0x8000000000000000⟩ } }
    let better : Laptop :=
      { id := "b", priceUsd := ⟨0x7ff8000000000000⟩, ram := some ⟨0xffffffffffffffff, 6⟩
        cpu := some { numberCores := 8, minGhz := ⟨0x7ff0000000000000⟩ } }
    let catalogue : Catalogue := ⟨[("a", worse), ("b", better)]⟩
    looser.NoStricterThan stricter ∧ better.NoWorseThan worse ∧ stricter.qualifies worse ∧
      looser.qualifies better ∧ Stream.capacityFor 0 ≤ Stream.maxCapacity ∧
      ∃ stream stream', ∃ found found' : Multiset Laptop,
        (Service.search (Catalogue.storeBy .bySaving) 0 { filter := some stricter }
            catalogue).2 = (some stream, catalogue) ∧
        (Service.search (Catalogue.storeBy .bySaving) 0 { filter := some looser }
            catalogue).2 = (some stream', catalogue) ∧
        Streams stream found ∧ Streams stream' found' ∧ found ≤ found' := by
  intro stricter looser worse better catalogue
  have hfilter : looser.NoStricterThan stricter := by
    refine ⟨?_, by decide, .inr (by decide), by decide⟩
    intro bound hbound
    cases hbound
    exact .inr ⟨_, rfl, by decide⟩
  have hlaptop : better.NoWorseThan worse :=
    ⟨.inl (by decide), by decide, .inr (by decide), by decide⟩
  have hqualifies : stricter.qualifies worse := by decide
  have hadmitted : Stream.capacityFor 0 ≤ Stream.maxCapacity := by decide
  obtain ⟨hkept, hsearches⟩ := looser_filters_keep_matches hfilter hlaptop catalogue .bySaving
    .bySaving hadmitted hadmitted
  exact ⟨hfilter, hlaptop, hqualifies, hkept hqualifies, hadmitted, hsearches⟩

end LaptopCatalogue
