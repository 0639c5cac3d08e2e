import LaptopCatalogue.Proofs.Id.Spelling

/-!
# The grammar of UUID texts

Which texts are UUIDs, said without a reader and without a UUID: 32 hexadecimal digits in either
case, alone or in groups of 8, 4, 4, 4 and 12 with hyphens between them, where the groups may also
stand in braces or behind the beginning of a resource name.

* `Uuid.Grouped`, `Uuid.InForm`: digits in groups, and digits in one of the four forms.
* `Uuid.IsText`: the texts that are UUIDs; the beginning of a resource name may be in either case.
* `Uuid.parse_eq_ok_iff_inForm`: a text in one of the forms is read as the UUID of its digits.
* `Uuid.isOk_parse_iff`: the reader accepts the texts of the grammar.
-/

namespace LaptopCatalogue.Uuid

/-! ## The grammar -/

/-- A hexadecimal digit, in either case. -/
def IsHexDigit (c : Char) : Prop := c ∈ "0123456789abcdefABCDEF".toList

instance : DecidablePred IsHexDigit := fun _ => inferInstanceAs (Decidable (_ ∈ _))

/-- Digits in groups of 8, 4, 4, 4 and 12, with a hyphen between two groups. -/
def Grouped (ds cs : List Char) : Prop :=
  ∃ a b c d e : List Char,
    a.length = 8 ∧ b.length = 4 ∧ c.length = 4 ∧ d.length = 4 ∧ e.length = 12 ∧
    ds = a ++ b ++ c ++ d ++ e ∧ cs = a ++ '-' :: b ++ '-' :: c ++ '-' :: d ++ '-' :: e

/-- Digits in one of the forms: alone, in groups, in groups in braces, or in groups behind a
name. -/
inductive InForm (name ds : List Char) : List Char → Prop where
  | plain (hlength : ds.length = 32) : InForm name ds ds
  | grouped {cs : List Char} (hgroups : Grouped ds cs) : InForm name ds cs
  | braced {cs : List Char} (hgroups : Grouped ds cs) : InForm name ds ('{' :: cs ++ ['}'])
  | named {cs : List Char} (hgroups : Grouped ds cs) : InForm name ds (name ++ cs)

/-- The texts that are UUIDs: hexadecimal digits in one of the forms, where the name is the
beginning of a resource name, in either case of its letters. -/
def IsText (cs : List Char) : Prop :=
  ∃ name ds, lower name = resourceName ∧ (∀ c ∈ ds, IsHexDigit c) ∧ InForm name ds cs

/-! ## Digits -/

theorem digit_of_mem : ∀ c ∈ "0123456789abcdefABCDEF".toList, ∃ n < 16, c.toLower = digit n := by
  have hall : "0123456789abcdefABCDEF".toList.all
      fun c => (List.range 16).any fun n => c.toLower == digit n := by decide +kernel
  intro c hc
  obtain ⟨n, hn, hlower⟩ := List.any_eq_true.mp (List.all_eq_true.mp hall c hc)
  exact ⟨n, List.mem_range.mp hn, beq_iff_eq.mp hlower⟩

theorem ofNat_mem_of_digit : ∀ code < 128, (∃ n < 16, (Char.ofNat code).toLower = digit n) →
    Char.ofNat code ∈ "0123456789abcdefABCDEF".toList := by
  decide +kernel

/-- The hexadecimal digits are those that have a value. -/
theorem isHexDigit_iff (c : Char) : IsHexDigit c ↔ ∃ n < 16, c.toLower = digit n := by
  constructor
  · exact digit_of_mem c
  · intro h
    obtain ⟨n, hn, hlower⟩ := h
    have hvalue : hexValue? c = some n := (hexValue?_eq_some_iff c n).mpr ⟨hn, hlower⟩
    have hcode : c.toNat < 128 := (hexValue?_bounds hvalue).2
    have hmem := ofNat_mem_of_digit c.toNat hcode
    rw [Char.ofNat_toNat] at hmem
    exact hmem ⟨n, hn, hlower⟩

theorem isHexDigit_of_lower_eq {ds : List Char} {bytes : List UInt8}
    (h : lower ds = digits bytes) : ∀ c ∈ ds, IsHexDigit c := by
  have hbytes : ofDigits? ds = some bytes := (ofDigits?_eq_some_iff ds bytes).mpr h
  -- the bytes are read two digits at a time
  clear h
  induction ds using ofDigits?.induct generalizing bytes with
  | case1 =>
    intro c hc
    cases hc
  | case2 c => cases hbytes
  | case3 high low ds ih =>
    simp only [ofDigits?, Option.bind_eq_bind, Option.bind_eq_some_iff,
      hexValue?_eq_some_iff] at hbytes
    obtain ⟨m, hhigh, n, hlow, rest, hrest, -⟩ := hbytes
    intro c hc
    rcases List.mem_cons.mp hc with rfl | hc
    · exact (isHexDigit_iff _).mpr ⟨m, hhigh⟩
    · rcases List.mem_cons.mp hc with rfl | hc
      · exact (isHexDigit_iff _).mpr ⟨n, hlow⟩
      · exact ih hrest c hc

/-- Hexadecimal digits, two for each byte, are the digits of some bytes. -/
theorem exists_bytes {ds : List Char} {n : Nat} (hlength : ds.length = 2 * n)
    (h : ∀ c ∈ ds, IsHexDigit c) : ∃ bytes, bytes.length = n ∧ lower ds = digits bytes := by
  induction ds using ofDigits?.induct generalizing n with
  | case1 =>
    refine ⟨[], ?_, rfl⟩
    simp only [List.length_nil] at hlength ⊢
    omega
  | case2 c =>
    simp only [List.length_singleton] at hlength
    omega
  | case3 high low ds ih =>
    simp only [List.length_cons] at hlength
    obtain ⟨a, ha, hhigh⟩ := (isHexDigit_iff high).mp (h high (by simp))
    obtain ⟨b, hb, hlow⟩ := (isHexDigit_iff low).mp (h low (by simp))
    have hrest : ∀ c ∈ ds, IsHexDigit c := fun c hc => h c (by simp [hc])
    obtain ⟨bytes, hbytes, hdigits⟩ := ih (n := n - 1) (by omega) hrest
    have hvalue : (UInt8.ofNat (16 * a + b)).toNat = 16 * a + b := by
      rw [UInt8.toNat_ofNat_of_lt']
      simp only [UInt8.size]
      omega
    refine ⟨UInt8.ofNat (16 * a + b) :: bytes, ?_, ?_⟩
    · simp only [List.length_cons, hbytes]
      omega
    · have hfirst : (16 * a + b) / 16 = a := by omega
      have hsecond : (16 * a + b) % 16 = b := by omega
      simp only [digits, hvalue, hfirst, hsecond, ← hdigits, ← hhigh, ← hlow]
      rfl

/-! ## Groups -/

/-- Digits are in groups exactly if the hyphens stand where the printer puts them. -/
theorem grouped_iff (ds cs : List Char) :
    Grouped ds cs ↔ ds.length = groupSizes.sum ∧ cs = hyphenate groupSizes ds := by
  constructor
  · rintro ⟨a, b, c, d, e, ha, hb, hc, hd, he, rfl, rfl⟩
    constructor
    · simp only [List.length_append, ha, hb, hc, hd, he]
      rfl
    · have hlast : hyphenate [4, 12] (d ++ e) = d ++ '-' :: e := by
        have h := @hyphenate_append [12] (by decide) d e
        rwa [hd] at h
      have hthird : hyphenate [4, 4, 12] (c ++ (d ++ e)) = c ++ '-' :: (d ++ '-' :: e) := by
        have h := @hyphenate_append [4, 12] (by decide) c (d ++ e)
        rwa [hc, hlast] at h
      have hsecond : hyphenate [4, 4, 4, 12] (b ++ (c ++ (d ++ e))) =
          b ++ '-' :: (c ++ '-' :: (d ++ '-' :: e)) := by
        have h := @hyphenate_append [4, 4, 12] (by decide) b (c ++ (d ++ e))
        rwa [hb, hthird] at h
      have hfirst := @hyphenate_append [4, 4, 4, 12] (by decide) a
        (b ++ (c ++ (d ++ e)))
      rw [ha, hsecond] at hfirst
      simpa [groupSizes] using hfirst.symm
  · rintro ⟨hlength, rfl⟩
    have hlength : ds.length = 32 := hlength
    refine ⟨ds.take 8, (ds.drop 8).take 4, ((ds.drop 8).drop 4).take 4,
      (((ds.drop 8).drop 4).drop 4).take 4, (((ds.drop 8).drop 4).drop 4).drop 4,
      ?_, ?_, ?_, ?_, ?_, ?_, ?_⟩
    all_goals try (simp only [List.length_take, List.length_drop]; omega)
    · simp only [List.append_assoc, List.take_append_drop]
    · simp [hyphenate, groupSizes]

theorem length_of_grouped {ds cs : List Char} (h : Grouped ds cs) : cs.length = 36 := by
  obtain ⟨hlength, rfl⟩ := (grouped_iff ds cs).mp h
  rw [length_hyphenate, hlength]
  rfl

/-- However they are written, there are 32 digits. -/
theorem InForm.length_digits {name ds cs : List Char} (h : InForm name ds cs) : ds.length = 32 := by
  cases h with
  | plain hlength => exact hlength
  | grouped hgroups => exact ((grouped_iff _ _).mp hgroups).1
  | braced hgroups => exact ((grouped_iff _ _).mp hgroups).1
  | named hgroups => exact ((grouped_iff _ _).mp hgroups).1

/-! ## Reading -/

/-- Digits in one of the forms are, in lower case, in one of the spellings. -/
theorem InForm.lower_eq {name ds cs : List Char} (h : InForm name ds cs)
    (hname : lower name = resourceName) :
    ∃ spelling : Spelling, lower cs = spelling.around (lower ds) := by
  cases h with
  | plain hlength => exact ⟨.plain, rfl⟩
  | grouped hgroups =>
    obtain ⟨-, rfl⟩ := (grouped_iff _ _).mp hgroups
    exact ⟨.grouped, lower_hyphenate _ _⟩
  | braced hgroups =>
    obtain ⟨-, rfl⟩ := (grouped_iff _ _).mp hgroups
    refine ⟨.braced, ?_⟩
    rw [Spelling.around, ← lower_hyphenate]
    simp [lower]
  | named hgroups =>
    obtain ⟨-, rfl⟩ := (grouped_iff _ _).mp hgroups
    refine ⟨.named, ?_⟩
    rw [Spelling.around, lower_append, hname, lower_hyphenate]

/-- A text that is a UUID has the length of one of the spellings. -/
theorem IsText.exists_length {cs : List Char} (h : IsText cs) :
    ∃ spelling : Spelling, cs.length = spelling.length := by
  obtain ⟨name, ds, hname, -, hform⟩ := h
  obtain ⟨spelling, hspelling⟩ := hform.lower_eq hname
  refine ⟨spelling, ?_⟩
  have hdigits : (lower ds).length = groupSizes.sum := by
    rw [length_lower, hform.length_digits]
    rfl
  rw [← length_lower, hspelling, spelling.length_around hdigits]

/-- A text whose digits are found has them in one of the forms. -/
theorem inForm_of_digitsOf? {cs ds : List Char} (h : digitsOf? cs = some ds) :
    ∃ name, lower name = resourceName ∧ InForm name ds cs := by
  have hlower : lower resourceName = resourceName := by decide
  unfold digitsOf? at h
  split_ifs at h with hlength
  · cases h
    exact ⟨resourceName, hlower, .plain hlength⟩
  · split at h
    · rename_i inner hbraces
      obtain rfl := (unbrace?_eq_some_iff cs inner).mp hbraces
      have hgroups : Grouped ds inner :=
        (grouped_iff _ _).mpr ((unhyphenate?_eq_some_iff _ _ _).mp h)
      exact ⟨resourceName, hlower, .braced hgroups⟩
    · split at h
      · rename_i rest hdrop
        obtain ⟨name, hname, rfl⟩ := (dropIgnoringCase_eq_some_iff _ _ _).mp hdrop
        have hgroups : Grouped ds rest :=
          (grouped_iff _ _).mpr ((unhyphenate?_eq_some_iff _ _ _).mp h)
        exact ⟨name, hname, .named hgroups⟩
      · have hgroups : Grouped ds cs :=
          (grouped_iff _ _).mpr ((unhyphenate?_eq_some_iff _ _ _).mp h)
        exact ⟨resourceName, hlower, .grouped hgroups⟩

/-- A text in one of the forms is read as the UUID of its digits, and no other text is read. -/
theorem parse_eq_ok_iff_inForm (s : String) (uuid : Uuid) :
    parse s = .ok uuid ↔
      ∃ name ds, lower name = resourceName ∧ lower ds = digits uuid.bytes ∧
        InForm name ds s.toList := by
  rw [parse_eq_ok_iff]
  constructor
  · rintro ⟨spelling, hspelling⟩
    obtain ⟨ds, hds, hdigits⟩ := exists_digitsOf? uuid.length_bytes hspelling
    obtain ⟨name, hname, hform⟩ := inForm_of_digitsOf? hds
    exact ⟨name, ds, hname, hdigits, hform⟩
  · rintro ⟨name, ds, hname, hdigits, hform⟩
    obtain ⟨spelling, hspelling⟩ := hform.lower_eq hname
    exact ⟨spelling, by rw [hspelling, hdigits]; rfl⟩

/-- Digits in any of the forms, and in either case, are read as the same UUID. -/
theorem InForm.exists_parse {name ds : List Char} {s : String} (h : InForm name ds s.toList)
    (hname : lower name = resourceName) (hds : ∀ c ∈ ds, IsHexDigit c) :
    ∃ uuid : Uuid, lower ds = digits uuid.bytes ∧ parse s = .ok uuid := by
  obtain ⟨bytes, hbytes, hdigits⟩ := exists_bytes (n := 16) h.length_digits hds
  exact ⟨⟨bytes, hbytes⟩, hdigits,
    (parse_eq_ok_iff_inForm s _).mpr ⟨name, ds, hname, hdigits, h⟩⟩

/-- The reader accepts the texts of the grammar. -/
theorem isOk_parse_iff (s : String) : (parse s).isOk ↔ IsText s.toList := by
  constructor
  · intro hok
    cases hparse : parse s with
    | error error =>
      rw [hparse] at hok
      cases hok
    | ok uuid =>
      obtain ⟨name, ds, hname, hdigits, hform⟩ := (parse_eq_ok_iff_inForm s uuid).mp hparse
      exact ⟨name, ds, hname, isHexDigit_of_lower_eq hdigits, hform⟩
  · rintro ⟨name, ds, hname, hds, hform⟩
    obtain ⟨uuid, -, hparse⟩ := hform.exists_parse hname hds
    rw [hparse]
    rfl

end LaptopCatalogue.Uuid
