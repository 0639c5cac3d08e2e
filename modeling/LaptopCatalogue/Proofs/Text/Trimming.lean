import Mathlib.Data.List.DropRight
import LaptopCatalogue.Text.Blank

/-!
# Trimming

What it means that one text is another one without the blanks around it, said without saying how
they are taken away, and that trimming does just this.

* `TrimsTo`: a text without the blanks around it.
* `trimBlanks_eq_iff`: trimming gives that text, and there is only one.
* `trimBlanks_pad`, `trimBlanks_trimBlanks`: more blanks around a text change nothing, and neither
  does trimming again.
-/

namespace LaptopCatalogue

/-- Whether a text has no characters but blanks. -/
def isBlankText (s : String) : Bool := s.toList.all isBlank

/-- Neither the first character nor the last one is blank. -/
structure IsTight (cs : List Char) : Prop where
  head : ∀ hne : cs ≠ [], ¬isBlank (cs.head hne)
  last : ∀ hne : cs ≠ [], ¬isBlank (cs.getLast hne)

/-- The second text is the first one without the blanks around it. -/
structure TrimsTo (s text : String) : Prop where
  around : ∃ before after, isBlankText before ∧ isBlankText after ∧ s = before ++ text ++ after
  tight : IsTight text.toList

theorem isBlankText_iff (s : String) : isBlankText s ↔ ∀ c ∈ s.toList, isBlank c :=
  List.all_eq_true

theorem isBlankText_ofList (cs : List Char) :
    isBlankText (String.ofList cs) ↔ ∀ c ∈ cs, isBlank c := by
  rw [isBlankText_iff, String.toList_ofList]

/-! ## Lists of characters -/

section

variable {cs before after : List Char}

/-- The blanks are taken from the front first and from the back afterwards. -/
theorem trimmed_eq_rdropWhile (cs : List Char) :
    trimmed cs = (cs.dropWhile isBlank).rdropWhile isBlank := rfl

/-- What is left is not blank at either end, since what is taken from the back leaves the first
character where it was, unless nothing is left. -/
theorem isTight_trimmed (cs : List Char) : IsTight (trimmed cs) := by
  constructor
  · intro hne
    have hbegins : trimmed cs <+: cs.dropWhile isBlank := List.rdropWhile_prefix isBlank _
    have hfront : cs.dropWhile isBlank ≠ [] := hbegins.ne_nil hne
    rw [hbegins.head hne, List.head_dropWhile_not isBlank hfront]
    exact Bool.false_ne_true
  · intro hne
    exact List.rdropWhile_last_not isBlank _ hne

/-- What is taken away is blank. -/
theorem exists_around_trimmed (cs : List Char) :
    ∃ before after, (∀ c ∈ before, isBlank c) ∧ (∀ c ∈ after, isBlank c) ∧
      cs = before ++ trimmed cs ++ after := by
  refine ⟨cs.takeWhile isBlank, (cs.dropWhile isBlank).rtakeWhile isBlank, ?_, ?_, ?_⟩
  · intro c hc
    exact List.mem_takeWhile_imp hc
  · intro c hc
    exact List.mem_rtakeWhile_imp hc
  · rw [trimmed_eq_rdropWhile, List.append_assoc, List.rdropWhile_append_rtakeWhile,
      List.takeWhile_append_dropWhile]

/-- What is not blank at either end stays. -/
theorem IsTight.trimmed_eq (h : IsTight cs) : trimmed cs = cs := by
  have hfront : cs.dropWhile isBlank = cs := by
    rw [List.dropWhile_eq_self_iff]
    intro hpos
    have hne : cs ≠ [] := List.ne_nil_of_length_pos hpos
    rw [← List.head_eq_getElem hne]
    exact h.head hne
  rw [trimmed_eq_rdropWhile, hfront, List.rdropWhile_eq_self_iff]
  exact h.last

theorem rdropWhile_append_blank (hafter : ∀ c ∈ after, isBlank c) :
    (cs ++ after).rdropWhile isBlank = cs.rdropWhile isBlank := by
  have hreversed : ∀ c ∈ after.reverse, isBlank c := by
    intro c hc
    exact hafter c (List.mem_reverse.mp hc)
  rw [List.rdropWhile, List.reverse_append, List.dropWhile_append_of_pos hreversed, List.rdropWhile]

/-- Blanks around a list of characters are taken away with those that it has itself. -/
theorem trimmed_around (hbefore : ∀ c ∈ before, isBlank c) (hafter : ∀ c ∈ after, isBlank c) :
    trimmed (before ++ cs ++ after) = trimmed cs := by
  rw [trimmed_eq_rdropWhile, trimmed_eq_rdropWhile, List.append_assoc,
    List.dropWhile_append_of_pos hbefore, List.dropWhile_append]
  by_cases hnone : (cs.dropWhile isBlank).isEmpty
  · -- all of it is blank, and so is what stands behind it
    have hbehind : after.dropWhile isBlank = [] := List.dropWhile_eq_nil_iff.mpr hafter
    rw [if_pos hnone, List.isEmpty_iff.mp hnone, hbehind]
  · rw [if_neg hnone]
    exact rdropWhile_append_blank hafter

end

/-! ## Texts -/

section

variable {s text before after : String}

theorem toList_trimBlanks (s : String) : (trimBlanks s).toList = trimmed s.toList :=
  String.toList_ofList

/-- More blanks around a text change nothing. -/
theorem trimBlanks_pad (hbefore : isBlankText before) (hafter : isBlankText after) :
    trimBlanks (before ++ s ++ after) = trimBlanks s := by
  rw [isBlankText_iff] at hbefore hafter
  rw [trimBlanks, trimBlanks, String.toList_append, String.toList_append,
    trimmed_around hbefore hafter]

theorem trimsTo_trimBlanks (s : String) : TrimsTo s (trimBlanks s) := by
  constructor
  · obtain ⟨before, after, hbefore, hafter, heq⟩ := exists_around_trimmed s.toList
    refine ⟨String.ofList before, String.ofList after, ?_, ?_, ?_⟩
    · exact (isBlankText_ofList before).mpr hbefore
    · exact (isBlankText_ofList after).mpr hafter
    · rw [trimBlanks, ← String.ofList_append, ← String.ofList_append, ← heq, String.ofList_toList]
  · rw [toList_trimBlanks]
    exact isTight_trimmed s.toList

theorem trimBlanks_of_isTight (h : IsTight text.toList) : trimBlanks text = text := by
  rw [trimBlanks, h.trimmed_eq, String.ofList_toList]

/-- Trimming gives the text without the blanks around it. -/
theorem trimBlanks_eq_iff (s text : String) : trimBlanks s = text ↔ TrimsTo s text := by
  constructor
  · intro heq
    rw [← heq]
    exact trimsTo_trimBlanks s
  · rintro ⟨⟨before, after, hbefore, hafter, rfl⟩, htight⟩
    rw [trimBlanks_pad hbefore hafter, trimBlanks_of_isTight htight]

theorem trimBlanks_trimBlanks (s : String) : trimBlanks (trimBlanks s) = trimBlanks s :=
  trimBlanks_of_isTight (trimsTo_trimBlanks s).tight

/-- Nothing is left of the blank texts, and of no others. -/
theorem trimBlanks_eq_empty_iff (s : String) : trimBlanks s = "" ↔ isBlankText s := by
  rw [trimBlanks_eq_iff, isBlankText_iff]
  constructor
  · rintro ⟨⟨before, after, hbefore, hafter, rfl⟩, -⟩ c hc
    rw [isBlankText_iff] at hbefore hafter
    rw [String.append_empty, String.toList_append, List.mem_append] at hc
    rcases hc with hc | hc
    · exact hbefore c hc
    · exact hafter c hc
  · intro hblank
    refine ⟨⟨s, "", (isBlankText_iff s).mpr hblank, rfl, ?_⟩, ?_⟩
    · rw [String.append_empty, String.append_empty]
    · constructor
      · intro hne
        exact absurd rfl hne
      · intro hne
        exact absurd rfl hne

end

end LaptopCatalogue
