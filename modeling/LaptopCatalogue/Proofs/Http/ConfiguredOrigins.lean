import Mathlib.Logic.Relation
import Mathlib.Data.List.Forall2
import LaptopCatalogue.Http.Origin
import LaptopCatalogue.Proofs.Text.Trimming

/-!
# Configured origins

A list of configured origins is typed in by people, with blanks around its texts, blank texts among
them, in any order and with repetitions. None of this has an effect on which origins are allowed; in
particular a blank text allows none, although the empty text begins every origin.

* `forall₂_normalizeOrigins`: the texts that are kept, one for each that is not blank.
* `Disturbs`: a change to a list that means nothing.
* `Disturbs.mem_iff`, `mem_iff_of_eqvGen`: one such change, and any number of them, keep the same
  texts.
* `origins_ignore_noise`: which origins a list allows, and what does not matter for it.
-/

namespace LaptopCatalogue.Http

/-- One change to a list of configured texts that means nothing: a blank text more, more blanks
around a text, another order, or a text that is there already. -/
inductive Disturbs : List String → List String → Prop where
  | blank (front back : List String) {entry : String} (hblank : isBlankText entry) :
      Disturbs (front ++ back) (front ++ entry :: back)
  | pad (front back : List String) (entry : String) {before after : String}
      (hbefore : isBlankText before) (hafter : isBlankText after) :
      Disturbs (front ++ entry :: back) (front ++ (before ++ entry ++ after) :: back)
  | reorder {raw raw' : List String} (hperm : raw.Perm raw') : Disturbs raw raw'
  | again (front back : List String) {entry : String} (hmem : entry ∈ front ++ back) :
      Disturbs (front ++ back) (front ++ entry :: back)

/-! ## The texts that are kept -/

section

variable {raw raw' : List String} {entry entry' text : String}

theorem mem_normalizeOrigins_iff :
    text ∈ normalizeOrigins raw ↔ text ≠ "" ∧ ∃ entry ∈ raw, TrimsTo entry text := by
  simp only [normalizeOrigins, List.mem_filter, List.mem_map, trimBlanks_eq_iff,
    decide_eq_true_eq, and_comm]

theorem normalizeOrigins_append (raw raw' : List String) :
    normalizeOrigins (raw ++ raw') = normalizeOrigins raw ++ normalizeOrigins raw' := by
  rw [normalizeOrigins, List.map_append, List.filter_append]
  rfl

theorem normalizeOrigins_cons_of_blank (raw : List String) (h : isBlankText entry) :
    normalizeOrigins (entry :: raw) = normalizeOrigins raw := by
  have hempty : trimBlanks entry = "" := (trimBlanks_eq_empty_iff entry).mpr h
  rw [normalizeOrigins, List.map_cons, List.filter_cons_of_neg (by simp [hempty])]
  rfl

theorem normalizeOrigins_cons_of_not_blank (raw : List String) (h : ¬isBlankText entry) :
    normalizeOrigins (entry :: raw) = trimBlanks entry :: normalizeOrigins raw := by
  have hne : trimBlanks entry ≠ "" := mt (trimBlanks_eq_empty_iff entry).mp h
  rw [normalizeOrigins, List.map_cons, List.filter_cons_of_pos (by simp [hne])]
  rfl

theorem normalizeOrigins_cons_congr (raw : List String)
    (h : trimBlanks entry = trimBlanks entry') :
    normalizeOrigins (entry :: raw) = normalizeOrigins (entry' :: raw) := by
  rw [normalizeOrigins, List.map_cons, h]
  rfl

/-- The texts that are not blank are kept in their order, each without the blanks around it. -/
theorem forall₂_normalizeOrigins (raw : List String) :
    List.Forall₂ TrimsTo (raw.filter fun entry => !isBlankText entry) (normalizeOrigins raw) := by
  induction raw with
  | nil => exact .nil
  | cons entry raw ih =>
    by_cases hblank : isBlankText entry
    · rw [normalizeOrigins_cons_of_blank raw hblank, List.filter_cons_of_neg (by simp [hblank])]
      exact ih
    · rw [normalizeOrigins_cons_of_not_blank raw hblank,
        List.filter_cons_of_pos (by simp [hblank])]
      exact .cons (trimsTo_trimBlanks entry) ih

/-- The texts that are kept are kept as they are. -/
theorem normalizeOrigins_normalizeOrigins (raw : List String) :
    normalizeOrigins (normalizeOrigins raw) = normalizeOrigins raw := by
  induction raw with
  | nil => rfl
  | cons entry raw ih =>
    by_cases hblank : isBlankText entry
    · rw [normalizeOrigins_cons_of_blank raw hblank, ih]
    · have hkept : ¬isBlankText (trimBlanks entry) := by
        rw [← trimBlanks_eq_empty_iff, trimBlanks_trimBlanks, trimBlanks_eq_empty_iff]
        exact hblank
      rw [normalizeOrigins_cons_of_not_blank raw hblank,
        normalizeOrigins_cons_of_not_blank _ hkept, trimBlanks_trimBlanks, ih]

theorem normalizeOrigins_of_blank (h : ∀ entry ∈ raw, isBlankText entry) :
    normalizeOrigins raw = [] := by
  rw [List.eq_nil_iff_forall_not_mem]
  intro text hmem
  obtain ⟨hne, entry, hentry, htrims⟩ := mem_normalizeOrigins_iff.mp hmem
  have hempty : trimBlanks entry = "" := (trimBlanks_eq_empty_iff entry).mpr (h entry hentry)
  rw [(trimBlanks_eq_iff entry text).mpr htrims] at hempty
  exact hne hempty

/-! ## Changes that mean nothing -/

/-- One change that means nothing keeps the same texts, though not in the same order nor as
often. -/
theorem Disturbs.mem_iff (h : Disturbs raw raw') (text : String) :
    text ∈ normalizeOrigins raw ↔ text ∈ normalizeOrigins raw' := by
  cases h with
  | blank front back hblank =>
    rw [normalizeOrigins_append, normalizeOrigins_append,
      normalizeOrigins_cons_of_blank back hblank]
  | pad front back entry hbefore hafter =>
    have htrim := trimBlanks_pad (s := entry) hbefore hafter
    rw [normalizeOrigins_append, normalizeOrigins_append,
      normalizeOrigins_cons_congr back htrim]
  | reorder hperm =>
    simp only [mem_normalizeOrigins_iff, hperm.mem_iff]
  | @again front back entry hmem =>
    -- the longer list has no text that the shorter one has not
    have hsame : ∀ other, other ∈ front ++ entry :: back ↔ other ∈ front ++ back := by
      intro other
      rw [List.mem_append, List.mem_cons, List.mem_append]
      constructor
      · rintro (hfront | rfl | hback)
        · exact .inl hfront
        · exact List.mem_append.mp hmem
        · exact .inr hback
      · rintro (hfront | hback)
        · exact .inl hfront
        · exact .inr (.inr hback)
    simp only [mem_normalizeOrigins_iff, hsame]

/-- Any number of such changes, made or undone, keep the same texts. -/
theorem mem_iff_of_eqvGen (h : Relation.EqvGen Disturbs raw raw') (text : String) :
    text ∈ normalizeOrigins raw ↔ text ∈ normalizeOrigins raw' := by
  induction h with
  | rel _ _ hdisturbs => exact hdisturbs.mem_iff text
  | refl _ => exact Iff.rfl
  | symm _ _ _ ih => exact ih.symm
  | trans _ _ _ _ _ ih ih' => exact ih.trans ih'

end

/-! ## Decisions -/

section

variable {allowed allowed' : List String} {start origin : String}

theorem isPrefixOf_toList_iff :
    start.toList.isPrefixOf origin.toList ↔ ∃ rest, origin = start ++ rest := by
  rw [List.isPrefixOf_iff_prefix]
  constructor
  · rintro ⟨rest, hrest⟩
    refine ⟨String.ofList rest, ?_⟩
    rw [← String.toList_inj, String.toList_append, String.toList_ofList, hrest]
  · rintro ⟨rest, rfl⟩
    rw [String.toList_append]
    exact List.prefix_append _ _

/-- An origin is allowed by a star and by each text that it begins with. -/
theorem originAllowed_iff :
    originAllowed origin allowed ↔
      ∃ start ∈ allowed, start = "*" ∨ ∃ rest, origin = start ++ rest := by
  simp only [originAllowed, List.any_eq_true, Bool.or_eq_true, decide_eq_true_eq,
    isPrefixOf_toList_iff]

/-- A decision depends on the texts of a list only. -/
theorem originAllowed_congr (h : ∀ text, text ∈ allowed ↔ text ∈ allowed') (origin : String) :
    originAllowed origin allowed = originAllowed origin allowed' := by
  rw [Bool.eq_iff_iff]
  simp only [originAllowed_iff, h]

end

/-- An origin is allowed exactly if one of the configured texts, without the blanks around it, is
not empty and is a star or begins the origin. Decisions do not change with blank texts, blanks
around texts, the order of texts or repetitions, and blank texts alone allow nothing. Of the texts
those that are not blank are kept, in their order, and doing this again changes nothing. -/
theorem origins_ignore_noise (raw : List String) :
    (∀ origin, originAllowed origin (normalizeOrigins raw) ↔
      ∃ entry ∈ raw, ∃ text, TrimsTo entry text ∧ text ≠ "" ∧
        (text = "*" ∨ ∃ rest, origin = text ++ rest)) ∧
    (∀ raw', Relation.EqvGen Disturbs raw raw' → ∀ origin,
      originAllowed origin (normalizeOrigins raw') = originAllowed origin (normalizeOrigins raw)) ∧
    ((∀ entry ∈ raw, isBlankText entry) → ∀ origin,
      originAllowed origin (normalizeOrigins raw) = false) ∧
    normalizeOrigins (normalizeOrigins raw) = normalizeOrigins raw ∧
    List.Forall₂ TrimsTo (raw.filter fun entry => !isBlankText entry) (normalizeOrigins raw) := by
  refine ⟨?_, ?_, ?_, normalizeOrigins_normalizeOrigins raw, forall₂_normalizeOrigins raw⟩
  · intro origin
    rw [originAllowed_iff]
    constructor
    · rintro ⟨text, hmem, hstart⟩
      obtain ⟨hne, entry, hentry, htrims⟩ := mem_normalizeOrigins_iff.mp hmem
      exact ⟨entry, hentry, text, htrims, hne, hstart⟩
    · rintro ⟨entry, hentry, text, htrims, hne, hstart⟩
      exact ⟨text, mem_normalizeOrigins_iff.mpr ⟨hne, entry, hentry, htrims⟩, hstart⟩
  · intro raw' hnoise origin
    apply originAllowed_congr
    intro text
    exact (mem_iff_of_eqvGen hnoise text).symm
  · intro hblank origin
    rw [normalizeOrigins_of_blank hblank]
    rfl

/-- An origin that is written twice, once with blanks around it, and a blank text between: allowed
is what the origin allows by itself. Two blank texts allow nothing. -/
theorem origins_ignore_noise_padded :
    Relation.EqvGen Disturbs ["http://a.test"]
      ["http://a.test", "\u3000", "\t" ++ "http://a.test" ++ "\u00a0"] ∧
    originAllowed "http://a.test:80" (normalizeOrigins
      ["http://a.test", "\u3000", "\t" ++ "http://a.test" ++ "\u00a0"]) = true ∧
    (∀ entry ∈ ["", "\u2003"], isBlankText entry) ∧
    originAllowed "http://a.test" (normalizeOrigins ["", "\u2003"]) = false := by
  have htwice : Disturbs ["http://a.test"] ["http://a.test", "http://a.test"] :=
    .again [] ["http://a.test"] (by decide)
  have hpad : Disturbs ["http://a.test", "http://a.test"]
      ["\t" ++ "http://a.test" ++ "\u00a0", "http://a.test"] :=
    .pad [] ["http://a.test"] "http://a.test" (by decide) (by decide)
  have hblank : Disturbs ["\t" ++ "http://a.test" ++ "\u00a0", "http://a.test"]
      ["\u3000", "\t" ++ "http://a.test" ++ "\u00a0", "http://a.test"] :=
    .blank [] _ (by decide)
  have horder : Disturbs ["\u3000", "\t" ++ "http://a.test" ++ "\u00a0", "http://a.test"]
      ["http://a.test", "\u3000", "\t" ++ "http://a.test" ++ "\u00a0"] :=
    .reorder (@List.perm_append_comm _ ["\u3000", _] ["http://a.test"])
  have hnoise : Relation.EqvGen Disturbs ["http://a.test"]
      ["http://a.test", "\u3000", "\t" ++ "http://a.test" ++ "\u00a0"] :=
    .trans _ _ _ (.rel _ _ htwice) (.trans _ _ _ (.rel _ _ hpad)
      (.trans _ _ _ (.rel _ _ hblank) (.rel _ _ horder)))
  have hblanks : ∀ entry ∈ ["", "\u2003"], isBlankText entry := by decide
  obtain ⟨-, hsame, -⟩ := origins_ignore_noise ["http://a.test"]
  obtain ⟨-, -, hnone, -⟩ := origins_ignore_noise ["", "\u2003"]
  refine ⟨hnoise, ?_, hblanks, hnone hblanks "http://a.test"⟩
  rw [hsame _ hnoise]
  decide +kernel

end LaptopCatalogue.Http
