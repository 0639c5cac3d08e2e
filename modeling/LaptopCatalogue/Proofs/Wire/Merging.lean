import LaptopCatalogue.Proofs.Wire.Concatenation
import LaptopCatalogue.Proofs.Wire.RoundTrip

/-!
# Merging encodings

Reading the bytes of one message on top of another combines the two. So bytes can be sent on in
parts: whoever reads a list of messages may read them one after another, or may first combine some
of them and write these anew.

* `mergeAll_encode`: a list of messages is read by combining with one after another.
* `merging_encodings_combines`: the statement about all messages and all groupings.
-/

namespace LaptopCatalogue.Wire

section

variable {α : Type} [Message α]

/-- Reading the bytes of messages one after another combines with one after another. -/
theorem mergeAll_encode (m : α) {ms : List α} (h : ∀ m' ∈ ms, encodedSize m' < UInt64.size) :
    mergeAll (ms.map encode) m = .ok (ms.foldl combine m) := by
  induction ms generalizing m with
  | nil => rfl
  | cons m' ms ih =>
    have hfirst : merge m (encode m') = .ok (combine m m') :=
      merge_encode m (h m' List.mem_cons_self)
    have hrest : mergeAll (ms.map encode) (combine m m') = .ok (ms.foldl combine (combine m m')) :=
      ih (combine m m') fun m'' hmem => h m'' (List.mem_cons_of_mem m' hmem)
    simp only [mergeAll] at hrest ⊢
    simp only [List.map_cons, List.foldlM_cons, List.foldl_cons, hfirst, hrest, bind, Except.bind]

/-- Merging the bytes of a message combines field by field, as long as the lengths in it fit 64
bits: a plain value that is not the default replaces the one that is there, and so does an optional
value or a choice that is set; a nested message is combined with the one that is there, or with the
empty one; the members of a list are appended. Combining with the empty message only takes the signs
from zeros in plain fields, and combining does not depend on grouping. So the bytes of any list of
messages have one outcome, whether they are merged one after another or whether groups of them are
combined and written anew before. -/
theorem merging_encodings_combines (m : α) :
    (∀ m' : α, encodedSize m' < UInt64.size → merge m (encode m') = .ok (combine m m')) ∧
    combine emptyMessage m = unsignZeros m ∧
    (∀ m' m'' : α, combine (combine m m') m'' = combine m (combine m' m'')) ∧
    ∀ groups : List (List α),
      (∀ group ∈ groups, encodedSize (combineAll group) < UInt64.size ∧
        ∀ m' ∈ group, encodedSize m' < UInt64.size) →
      mergeAll (groups.flatten.map encode) m = .ok (groups.flatten.foldl combine m) ∧
      mergeAll (groups.map fun group => encode (combineAll group)) m =
        mergeAll (groups.flatten.map encode) m := by
  refine ⟨fun m' => merge_encode m, emptyMessage_combine m, Std.Associative.assoc m, ?_⟩
  intro groups hsizes
  have hsingly : mergeAll (groups.flatten.map encode) m = .ok (groups.flatten.foldl combine m) := by
    refine mergeAll_encode m fun m' hmem => ?_
    obtain ⟨group, hgroup, hmem⟩ := List.mem_flatten.mp hmem
    exact (hsizes group hgroup).2 m' hmem
  -- a group is one message, and combining with it is combining with its members
  have hgrouped : mergeAll ((groups.map combineAll).map encode) m =
      .ok ((groups.map combineAll).foldl combine m) := by
    refine mergeAll_encode m fun m' hmem => ?_
    obtain ⟨group, hgroup, rfl⟩ := List.mem_map.mp hmem
    exact (hsizes group hgroup).1
  rw [foldl_combine_groups, List.map_map] at hgrouped
  exact ⟨hsingly, hgrouped.trans hsingly.symm⟩

/-- A memory of which one message knows the value and another one the unit, a weight in two units,
and a card whose clock rate is a negative zero; then all of it once more, with the later messages as
a group. -/
theorem merging_encodings_combines_parts :
    let first : Laptop :=
      { brand := "a", ram := some { value := 5 }, gpus := [{ name := "b" }],
        weight := some (.kilograms ⟨0x3ff0000000000000⟩) }
    let second : Laptop :=
      { ram := some { unit := 3 }, gpus := [{ minGhz := ⟨0x8000000000000000⟩ }],
        weight := some (.pounds .zero) }
    let third : Laptop := { brand := "c", keyboard := some {} }
    let both : Laptop :=
      { brand := "a", ram := some { value := 5, unit := 3 }, gpus := [{ name := "b" }, {}],
        weight := some (.pounds .zero) }
    encodedSize second < UInt64.size ∧ encodedSize third < UInt64.size ∧
      encodedSize (combineAll [second, third]) < UInt64.size ∧
      merge first (encode second) = .ok both ∧
      mergeAll [encode (combineAll [second, third])] first =
        .ok { both with brand := "c", keyboard := some {} } := by
  intro first second third both
  have hsecond : encodedSize second < UInt64.size := by decide
  have hthird : encodedSize third < UInt64.size := by decide
  have hgroup : encodedSize (combineAll [second, third]) < UInt64.size := by decide
  obtain ⟨hmerge, -, -, hgroups⟩ := merging_encodings_combines first
  have hcombined : combine first second = both := by rfl
  have hall : [second, third].foldl combine first =
      { both with brand := "c", keyboard := some {} } := by rfl
  obtain ⟨hsingly, hgrouped⟩ := hgroups [[second, third]] (by simp [hgroup, hsecond, hthird])
  refine ⟨hsecond, hthird, hgroup, ?_, ?_⟩
  · rw [hmerge second hsecond, hcombined]
  · exact hgrouped.trans (hsingly.trans (congrArg Except.ok hall))

end

end LaptopCatalogue.Wire
