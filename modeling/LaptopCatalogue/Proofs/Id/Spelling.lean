import Mathlib.Algebra.Ring.Nat
import Mathlib.Data.List.Basic
import LaptopCatalogue.Id.Uuid

/-!
# Spellings of a UUID

There are four ways to write a UUID, and each of its letters may be small or a capital. The reader
takes the texts that arise so and no others. A text is therefore known from its UUID, from the way
in which it is written, and from where it has capitals.

* `Uuid.Spelling` are the four ways, and `Uuid.Spelling.write` gives the text with small letters.
* `Uuid.parse_eq_ok_iff` says which texts are read, and as what.
* `Uuid.parse_text`: the plain text of a UUID is read as that UUID.
* `Uuid.SpelledAlike.eq`: two texts of one UUID that are written alike are the same.
-/

namespace LaptopCatalogue.Uuid

/-! ## Letters -/

/-- A text with small letters in the place of its capitals. -/
def lower (cs : List Char) : List Char := cs.map Char.toLower

@[simp] theorem length_lower (cs : List Char) : (lower cs).length = cs.length := by
  simp [lower]

theorem lower_append (cs ds : List Char) : lower (cs ++ ds) = lower cs ++ lower ds := by
  simp [lower]

/-- The codes of the capitals are those from 65 to 90. -/
theorem toNat_toLower (c : Char) :
    c.toLower.toNat = if 65 ≤ c.toNat ∧ c.toNat ≤ 90 then c.toNat + 32 else c.toNat := by
  have hA : 'A'.val.toNat = 65 := rfl
  have hZ : 'Z'.val.toNat = 90 := rfl
  have hshift : ('a'.val - 'A'.val).toNat = 32 := rfl
  have hcode : c.val.toNat = c.toNat := rfl
  unfold Char.toLower
  simp only [UInt32.le_iff_toNat_le, ge_iff_le, hA, hZ, hcode]
  split_ifs with hcapital
  · -- the sum stays far below the bound of the words it is taken in
    have hle : c.toNat ≤ 90 := hcapital.2
    simp only [Char.toNat, UInt32.toNat_add, hshift] at hle ⊢
    omega
  · rfl

theorem isUpper_iff (c : Char) : c.isUpper ↔ 65 ≤ c.toNat ∧ c.toNat ≤ 90 := by
  have hcode : c.val.toNat = c.toNat := rfl
  have hupper : c.isUpper = decide (c.val ≥ 'A'.val ∧ c.val ≤ 'Z'.val) := rfl
  simp [hupper, UInt32.le_iff_toNat_le, hcode]

/-- A character that is no letter comes from itself only. -/
theorem toLower_eq_iff {p : Char} (hp : p.toNat < 65 ∨ 122 < p.toNat) (c : Char) :
    c.toLower = p ↔ c = p := by
  rw [← Char.toNat_inj, ← Char.toNat_inj, toNat_toLower]
  split_ifs <;> omega

/-- A character is known from its small form and from whether it is a capital. -/
theorem eq_of_toLower_eq {c d : Char} (hlower : c.toLower = d.toLower)
    (hcapital : c.isUpper = d.isUpper) : c = d := by
  rw [← Char.toNat_inj, toNat_toLower, toNat_toLower] at hlower
  rw [Bool.eq_iff_iff, isUpper_iff, isUpper_iff] at hcapital
  rw [← Char.toNat_inj]
  split_ifs at hlower <;> omega

/-- Two texts with capitals in the same places, and so of the same length. -/
def CapitalizedAlike (cs ds : List Char) : Prop := cs.map Char.isUpper = ds.map Char.isUpper

theorem eq_of_lower_eq {cs ds : List Char} (hlower : lower cs = lower ds)
    (hcapitals : CapitalizedAlike cs ds) : cs = ds := by
  unfold lower at hlower
  unfold CapitalizedAlike at hcapitals
  induction cs generalizing ds with
  | nil => exact (List.map_eq_nil_iff.mp hlower.symm).symm
  | cons c cs ih =>
    cases ds with
    | nil => cases hlower
    | cons d ds =>
      rw [List.map_cons, List.map_cons] at hlower hcapitals
      obtain ⟨hfirst, hrest⟩ := List.cons.inj hlower
      obtain ⟨hfirst', hrest'⟩ := List.cons.inj hcapitals
      rw [eq_of_toLower_eq hfirst hfirst', ih hrest hrest']

/-! ## Digits -/

theorem hexValue?_bounds {c : Char} {n : Nat} (h : hexValue? c = some n) :
    n < 16 ∧ c.toNat < 128 := by
  have h0 : '0'.toNat = 48 := rfl
  have ha : 'a'.toNat = 97 := rfl
  have hA : 'A'.toNat = 65 := rfl
  have h9 : '9'.val.toNat = 57 := rfl
  have hf : 'f'.val.toNat = 102 := rfl
  have hF : 'F'.val.toNat = 70 := rfl
  have hcode : c.val.toNat = c.toNat := rfl
  unfold hexValue? at h
  simp only [Char.le_def, UInt32.le_iff_toNat_le] at h
  split_ifs at h <;> simp only [Option.some.injEq] at h <;> omega

/-- Whether a character is a digit, for each character and each digit there is. -/
theorem hexValue?_ofNat_iff : ∀ code < 128, ∀ n < 16,
    hexValue? (Char.ofNat code) = some n ↔ (Char.ofNat code).toLower = digit n := by
  decide +kernel

theorem toNat_digit_lt : ∀ n < 16, (digit n).toNat < 123 := by decide

/-- A digit has its value in either case. -/
theorem hexValue?_eq_some_iff (c : Char) (n : Nat) :
    hexValue? c = some n ↔ n < 16 ∧ c.toLower = digit n := by
  constructor
  · intro h
    obtain ⟨hn, hcode⟩ := hexValue?_bounds h
    have htable := hexValue?_ofNat_iff c.toNat hcode n hn
    rw [Char.ofNat_toNat] at htable
    exact ⟨hn, htable.mp h⟩
  · rintro ⟨hn, hlower⟩
    have hcode : c.toNat < 128 := by
      have hdigit := toNat_digit_lt n hn
      rw [← hlower, toNat_toLower] at hdigit
      split_ifs at hdigit <;> omega
    have htable := hexValue?_ofNat_iff c.toNat hcode n hn
    rw [Char.ofNat_toNat] at htable
    exact htable.mpr hlower

theorem toLower_digit : ∀ n < 16, (digit n).toLower = digit n := by decide

@[simp] theorem length_digits (bytes : List UInt8) : (digits bytes).length = 2 * bytes.length := by
  induction bytes with
  | nil => rfl
  | cons byte bytes ih =>
    simp only [digits, List.length_cons, ih]
    omega

@[simp] theorem lower_digits (bytes : List UInt8) : lower (digits bytes) = digits bytes := by
  induction bytes with
  | nil => rfl
  | cons byte bytes ih =>
    have hbyte : byte.toNat < 256 := byte.toNat_lt
    have hrest : (digits bytes).map Char.toLower = digits bytes := ih
    simp only [lower, digits, List.map_cons, hrest, toLower_digit (byte.toNat / 16) (by omega),
      toLower_digit (byte.toNat % 16) (by omega)]

/-- Digits are read as bytes exactly if they are, in lower case, the digits of these bytes. -/
theorem ofDigits?_eq_some_iff (cs : List Char) (bytes : List UInt8) :
    ofDigits? cs = some bytes ↔ lower cs = digits bytes := by
  -- two characters make a byte, so the induction goes two characters at a time
  induction cs using ofDigits?.induct generalizing bytes with
  | case1 => cases bytes <;> simp [ofDigits?, lower, digits]
  | case2 c => cases bytes <;> simp [ofDigits?, lower, digits]
  | case3 high low cs ih =>
    simp only [ofDigits?, Option.bind_eq_bind, Option.bind_eq_some_iff, Option.some.injEq,
      hexValue?_eq_some_iff]
    constructor
    · rintro ⟨m, ⟨hm, hhigh⟩, n, ⟨hn, hlow⟩, rest, hrest, rfl⟩
      have hvalue : (UInt8.ofNat (16 * m + n)).toNat = 16 * m + n := by
        rw [UInt8.toNat_ofNat_of_lt']
        simp only [UInt8.size]
        omega
      have hm' : (16 * m + n) / 16 = m := by omega
      have hn' : (16 * m + n) % 16 = n := by omega
      simp only [lower, digits, List.map_cons, hvalue, hm', hn', hhigh, hlow]
      rw [← (ih rest).mp hrest]
      rfl
    · intro h
      cases bytes with
      | nil => simp [lower, digits] at h
      | cons byte rest =>
        simp only [lower, digits, List.map_cons, List.cons.injEq] at h
        obtain ⟨hhigh, hlow, hrest⟩ := h
        have hbyte : byte.toNat < 256 := byte.toNat_lt
        refine ⟨_, ⟨by omega, hhigh⟩, _, ⟨by omega, hlow⟩, rest, (ih rest).mpr hrest, ?_⟩
        rw [Nat.div_add_mod, UInt8.ofNat_toNat]

/-! ## Groups -/

/-- A hyphen stands behind a group that is followed by others. -/
theorem hyphenate_append {sizes : List Nat} (hsizes : sizes ≠ []) (front ds : List Char) :
    hyphenate (front.length :: sizes) (front ++ ds) = front ++ '-' :: hyphenate sizes ds := by
  rw [hyphenate, List.take_left, List.drop_left]
  exact hsizes

/-- Taking out the hyphens takes out the first one, behind a group of the right length, and then
those of the rest. -/
theorem unhyphenate?_cons_eq_some_iff {sizes : List Nat} (hsizes : sizes ≠ []) (n : Nat)
    (cs ds : List Char) :
    unhyphenate? (n :: sizes) cs = some ds ↔
      ∃ front rest inner, front.length = n ∧ cs = front ++ '-' :: rest ∧
        unhyphenate? sizes rest = some inner ∧ ds = front ++ inner := by
  rw [unhyphenate?.eq_3 _ _ _ hsizes]
  constructor
  · intro h
    split at h
    · rename_i rest hdrop
      obtain ⟨inner, hinner, rfl⟩ := Option.map_eq_some_iff.mp h
      refine ⟨cs.take n, rest, inner, ?_, ?_, hinner, rfl⟩
      · -- the hyphen stands behind the group, so the group is as long as it should be
        have hlength := congrArg List.length hdrop
        simp only [List.length_drop, List.length_cons] at hlength
        rw [List.length_take]
        omega
      · rw [← hdrop, List.take_append_drop]
    · cases h
  · rintro ⟨front, rest, inner, rfl, rfl, hinner, rfl⟩
    simp [hinner]

/-- Hyphens are taken out exactly where they are put in. -/
theorem unhyphenate?_eq_some_iff (sizes : List Nat) (cs ds : List Char) :
    unhyphenate? sizes cs = some ds ↔ ds.length = sizes.sum ∧ cs = hyphenate sizes ds := by
  induction sizes generalizing cs ds with
  | nil =>
    simp only [unhyphenate?, hyphenate, List.sum_nil, List.length_eq_zero_iff]
    grind
  | cons n sizes ih =>
    by_cases hsizes : sizes = []
    · subst hsizes
      simp only [unhyphenate?, hyphenate, List.sum_singleton]
      grind
    · rw [unhyphenate?_cons_eq_some_iff hsizes, List.sum_cons]
      constructor
      · rintro ⟨front, rest, inner, rfl, rfl, hinner, rfl⟩
        obtain ⟨hlength, rfl⟩ := (ih rest inner).mp hinner
        exact ⟨by rw [List.length_append, hlength], (hyphenate_append hsizes front inner).symm⟩
      · rintro ⟨hlength, rfl⟩
        have hfront : (ds.take n).length = n := by
          rw [List.length_take]
          omega
        have hsplit := hyphenate_append hsizes (ds.take n) (ds.drop n)
        rw [hfront, List.take_append_drop] at hsplit
        refine ⟨ds.take n, _, ds.drop n, hfront, hsplit, (ih _ _).mpr ⟨?_, rfl⟩, ?_⟩
        · rw [List.length_drop]
          omega
        · rw [List.take_append_drop]

theorem length_hyphenate (sizes : List Nat) (ds : List Char) :
    (hyphenate sizes ds).length = ds.length + (sizes.length - 1) := by
  induction sizes, ds using hyphenate.induct with
  | case1 ds => simp [hyphenate]
  | case2 n ds => simp [hyphenate]
  | case3 n sizes ds hsizes ih =>
    have hpos : 0 < sizes.length := List.length_pos_of_ne_nil hsizes
    rw [hyphenate.eq_3 _ _ _ hsizes, List.length_append, List.length_cons, ih, List.length_take,
      List.length_drop, List.length_cons]
    omega

theorem lower_hyphenate (sizes : List Nat) (ds : List Char) :
    lower (hyphenate sizes ds) = hyphenate sizes (lower ds) := by
  induction sizes, ds using hyphenate.induct with
  | case1 ds => rfl
  | case2 n ds => rfl
  | case3 n sizes ds hsizes ih =>
    rw [hyphenate.eq_3 _ _ _ hsizes, hyphenate.eq_3 _ _ _ hsizes, lower_append]
    simp only [lower, List.map_cons, List.map_take, List.map_drop] at ih ⊢
    rw [ih]
    rfl

/-- A text that has the hyphens of another one in lower case has them at the same places. -/
theorem exists_eq_hyphenate {sizes : List Nat} {cs ds : List Char}
    (hlength : ds.length = sizes.sum) (h : lower cs = hyphenate sizes ds) :
    ∃ ds', cs = hyphenate sizes ds' ∧ lower ds' = ds := by
  induction sizes generalizing cs ds with
  | nil => exact ⟨cs, rfl, h⟩
  | cons n sizes ih =>
    by_cases hsizes : sizes = []
    · subst hsizes
      exact ⟨cs, rfl, h⟩
    · rw [List.sum_cons] at hlength
      rw [hyphenate.eq_3 _ _ _ hsizes] at h
      obtain ⟨front, behind, rfl, hfront, hbehind⟩ := List.map_eq_append_iff.mp h
      obtain ⟨c, rest, rfl, hc, hrest⟩ := List.map_eq_cons_iff.mp hbehind
      obtain rfl : c = '-' := (toLower_eq_iff (by decide) c).mp hc
      have hrestLength : (ds.drop n).length = sizes.sum := by
        rw [List.length_drop]
        omega
      obtain ⟨inner, rfl, hinner⟩ := ih hrestLength hrest
      have hfrontLength : front.length = n := by
        have htake := congrArg List.length hfront
        rw [List.length_map, List.length_take] at htake
        omega
      refine ⟨front ++ inner, ?_, ?_⟩
      · rw [← hfrontLength, hyphenate_append hsizes]
      · rw [lower_append, hinner, lower, hfront, List.take_append_drop]

/-! ## Braces and the resource name -/

theorem unbrace?_eq_some_iff (cs inner : List Char) :
    unbrace? cs = some inner ↔ cs = '{' :: (inner ++ ['}']) := by
  constructor
  · intro h
    unfold unbrace? at h
    split at h
    · rename_i rest
      split_ifs at h with hlast
      cases h
      rw [List.dropLast_append_getLast? _ hlast]
    · cases h
  · rintro rfl
    simp [unbrace?]

theorem dropIgnoringCase_eq_some_iff (ps cs rest : List Char) :
    dropIgnoringCase ps cs = some rest ↔ ∃ front, lower front = ps ∧ cs = front ++ rest := by
  induction ps generalizing cs with
  | nil =>
    simp only [dropIgnoringCase, Option.some.injEq, lower, List.map_eq_nil_iff]
    simp
  | cons p ps ih =>
    constructor
    · intro h
      cases cs with
      | nil => cases h
      | cons c cs =>
        rw [dropIgnoringCase] at h
        split_ifs at h with hc
        obtain ⟨front, rfl, rfl⟩ := (ih cs).mp h
        exact ⟨c :: front, by rw [← hc]; rfl, rfl⟩
    · rintro ⟨front, hfront, rfl⟩
      obtain ⟨c, front, rfl, hc, hrest⟩ := List.map_eq_cons_iff.mp hfront
      rw [List.cons_append, dropIgnoringCase, if_pos hc]
      exact (ih _).mpr ⟨front, hrest, rfl⟩

/-! ## Spellings -/

/-- The ways to write a UUID. -/
inductive Spelling where
  /-- The digits alone. -/
  | plain
  /-- The digits in groups. -/
  | grouped
  /-- The groups in braces. -/
  | braced
  /-- The groups behind the beginning of a resource name. -/
  | named
deriving DecidableEq, Repr

/-- Digits in a spelling. -/
def Spelling.around : Spelling → List Char → List Char
  | .plain, ds => ds
  | .grouped, ds => hyphenate groupSizes ds
  | .braced, ds => '{' :: (hyphenate groupSizes ds ++ ['}'])
  | .named, ds => resourceName ++ hyphenate groupSizes ds

/-- A UUID in a spelling, with small letters. -/
def Spelling.write (spelling : Spelling) (uuid : Uuid) : List Char :=
  spelling.around (digits uuid.bytes)

def Spelling.length : Spelling → Nat
  | .plain => 32
  | .grouped => 36
  | .braced => 38
  | .named => 45

theorem Spelling.eq_of_length_eq {spelling spelling' : Spelling}
    (h : spelling.length = spelling'.length) : spelling = spelling' := by
  cases spelling <;> cases spelling' <;> first | rfl | cases h

theorem Spelling.length_around (spelling : Spelling) {ds : List Char}
    (hds : ds.length = groupSizes.sum) : (spelling.around ds).length = spelling.length := by
  have hgrouped : (hyphenate groupSizes ds).length = 36 := by
    rw [length_hyphenate, hds]
    rfl
  cases spelling with
  | plain => exact hds
  | grouped => exact hgrouped
  | braced =>
    rw [around, List.length_cons, List.length_append, hgrouped]
    rfl
  | named =>
    rw [around, List.length_append, hgrouped]
    rfl

/-- A text whose digits are found is these digits in one of the spellings, with letters in either
case. -/
theorem lower_eq_around {cs ds : List Char} (h : digitsOf? cs = some ds) :
    ∃ spelling : Spelling, lower cs = spelling.around (lower ds) := by
  unfold digitsOf? at h
  split_ifs at h with hlength
  · cases h
    exact ⟨.plain, rfl⟩
  · split at h
    · rename_i inner hbraces
      obtain rfl := (unbrace?_eq_some_iff cs inner).mp hbraces
      obtain ⟨_, rfl⟩ := (unhyphenate?_eq_some_iff _ _ _).mp h
      refine ⟨.braced, ?_⟩
      rw [Spelling.around, ← lower_hyphenate]
      simp [lower]
    · split at h
      · rename_i rest hname
        obtain ⟨front, hfront, rfl⟩ := (dropIgnoringCase_eq_some_iff _ _ _).mp hname
        obtain ⟨_, rfl⟩ := (unhyphenate?_eq_some_iff _ _ _).mp h
        refine ⟨.named, ?_⟩
        rw [Spelling.around, lower_append, hfront, lower_hyphenate]
      · obtain ⟨_, rfl⟩ := (unhyphenate?_eq_some_iff _ _ _).mp h
        exact ⟨.grouped, lower_hyphenate _ _⟩

theorem digit_ne_marks : ∀ n < 16, digit n ≠ '{' ∧ digit n ≠ 'u' := by decide

theorem exists_digits_eq_cons {bytes : List UInt8} (h : bytes ≠ []) :
    ∃ n rest, n < 16 ∧ digits bytes = digit n :: rest := by
  cases bytes with
  | nil => exact absurd rfl h
  | cons byte bytes =>
    have hbyte : byte.toNat < 256 := byte.toNat_lt
    exact ⟨byte.toNat / 16, _, by omega, rfl⟩

theorem unbrace?_eq_none {cs rest : List Char} {c : Char} (hc : c ≠ '{')
    (h : lower cs = c :: rest) : unbrace? cs = none := by
  rw [Option.eq_none_iff_forall_ne_some]
  intro inner hinner
  rw [(unbrace?_eq_some_iff cs inner).mp hinner] at h
  exact hc (List.cons.inj h).1.symm

theorem dropIgnoringCase_eq_none {cs rest : List Char} {c : Char} (hc : c ≠ 'u')
    (h : lower cs = c :: rest) : dropIgnoringCase resourceName cs = none := by
  rw [Option.eq_none_iff_forall_ne_some]
  intro behind hbehind
  obtain ⟨front, hfront, rfl⟩ := (dropIgnoringCase_eq_some_iff _ _ _).mp hbehind
  rw [lower_append, hfront] at h
  exact hc (List.cons.inj h).1.symm

/-- Hyphens that stand where those of the groups of some digits stand are taken out. -/
theorem exists_unhyphenate? {cs ds : List Char} (hds : ds.length = groupSizes.sum)
    (h : lower cs = hyphenate groupSizes ds) :
    ∃ ds', unhyphenate? groupSizes cs = some ds' ∧ lower ds' = ds := by
  obtain ⟨ds', rfl, rfl⟩ := exists_eq_hyphenate hds h
  rw [length_lower] at hds
  exact ⟨ds', (unhyphenate?_eq_some_iff _ _ _).mpr ⟨hds, rfl⟩, rfl⟩

/-- The digits of a text in one of the spellings are found, whatever their case. -/
theorem exists_digitsOf? {cs : List Char} {spelling : Spelling} {bytes : List UInt8}
    (hbytes : bytes.length = 16) (h : lower cs = spelling.around (digits bytes)) :
    ∃ ds, digitsOf? cs = some ds ∧ lower ds = digits bytes := by
  have hdigits : (digits bytes).length = groupSizes.sum := by
    rw [length_digits, hbytes]
    rfl
  have hlength : cs.length = spelling.length := by
    rw [← length_lower, h, spelling.length_around hdigits]
  unfold digitsOf?
  cases spelling with
  | plain => exact ⟨cs, if_pos hlength, h⟩
  | grouped =>
    -- a digit begins neither braces nor a resource name
    obtain ⟨n, rest, hn, hfirst⟩ := exists_digits_eq_cons (List.ne_nil_of_length_eq_add_one hbytes)
    obtain ⟨hbrace, hletter⟩ := digit_ne_marks n hn
    have hfirst' : lower cs = digit n :: (hyphenate groupSizes (digits bytes)).tail := by
      rw [h, Spelling.around, hfirst]
      rfl
    rw [if_neg (by rw [hlength]; decide), unbrace?_eq_none hbrace hfirst',
      dropIgnoringCase_eq_none hletter hfirst']
    exact exists_unhyphenate? hdigits h
  | braced =>
    obtain ⟨c, behind, rfl, hc, hbehind⟩ := List.map_eq_cons_iff.mp h
    obtain ⟨inner, last, rfl, hinner, hlast⟩ := List.map_eq_append_iff.mp hbehind
    obtain ⟨d, rfl, hd⟩ := List.map_eq_singleton_iff.mp hlast
    obtain rfl : c = '{' := (toLower_eq_iff (by decide) c).mp hc
    obtain rfl : d = '}' := (toLower_eq_iff (by decide) d).mp hd
    rw [if_neg (by rw [hlength]; decide), (unbrace?_eq_some_iff _ inner).mpr rfl]
    exact exists_unhyphenate? hdigits hinner
  | named =>
    have hbraces : unbrace? cs = none := unbrace?_eq_none (by decide) h
    obtain ⟨front, rest, rfl, hfront, hrest⟩ := List.map_eq_append_iff.mp h
    rw [if_neg (by rw [hlength]; decide), hbraces,
      (dropIgnoringCase_eq_some_iff resourceName _ rest).mpr ⟨front, hfront, rfl⟩]
    exact exists_unhyphenate? hdigits hrest

/-! ## Reading -/

theorem ofText?_eq_some_iff (cs : List Char) (uuid : Uuid) :
    ofText? cs = some uuid ↔ ∃ spelling : Spelling, lower cs = spelling.write uuid := by
  simp only [ofText?, Option.bind_eq_bind, Option.bind_eq_some_iff, ofDigits?_eq_some_iff]
  constructor
  · rintro ⟨ds, hds, bytes, hbytes, huuid⟩
    split_ifs at huuid with hlength
    cases huuid
    obtain ⟨spelling, hspelling⟩ := lower_eq_around hds
    exact ⟨spelling, by rw [hspelling, hbytes]; rfl⟩
  · rintro ⟨spelling, hspelling⟩
    obtain ⟨ds, hds, hlower⟩ := exists_digitsOf? uuid.length_bytes hspelling
    exact ⟨ds, hds, uuid.bytes, hlower, dif_pos uuid.length_bytes⟩

/-- A text is read as a UUID exactly if it is one of its spellings, with letters in either case. -/
theorem parse_eq_ok_iff (s : String) (uuid : Uuid) :
    parse s = .ok uuid ↔ ∃ spelling : Spelling, lower s.toList = spelling.write uuid := by
  rw [← ofText?_eq_some_iff]
  unfold parse
  cases ofText? s.toList <;> simp

theorem Spelling.length_write (spelling : Spelling) (uuid : Uuid) :
    (spelling.write uuid).length = spelling.length := by
  apply length_around
  rw [length_digits, uuid.length_bytes]
  rfl

/-- The plain text of a UUID is read as that UUID. -/
theorem parse_text (uuid : Uuid) : parse uuid.text = .ok uuid := by
  refine (parse_eq_ok_iff _ _).mpr ⟨.grouped, ?_⟩
  rw [text, String.toList_ofList, lower_hyphenate, lower_digits]
  rfl

theorem ne_empty_of_parse_eq {s : String} {uuid : Uuid} (h : parse s = .ok uuid) : s ≠ "" := by
  rintro rfl
  obtain ⟨spelling, hspelling⟩ := (parse_eq_ok_iff _ _).mp h
  have hlength := spelling.length_write uuid
  rw [← hspelling] at hlength
  cases spelling <;> cases hlength

/-- Two texts of one UUID that are written alike: their capitals are in the same places. -/
def SpelledAlike (s t : String) : Prop :=
  ∃ uuid, parse s = .ok uuid ∧ parse t = .ok uuid ∧ CapitalizedAlike s.toList t.toList

/-- A UUID can be written in one way only with given capitals and a given length, so two texts that
are written alike are the same. -/
theorem SpelledAlike.eq {s t : String} (h : SpelledAlike s t) : s = t := by
  obtain ⟨uuid, hs, ht, hcapitals⟩ := h
  obtain ⟨spelling, hspelling⟩ := (parse_eq_ok_iff s uuid).mp hs
  obtain ⟨spelling', hspelling'⟩ := (parse_eq_ok_iff t uuid).mp ht
  -- texts with capitals in the same places have one length, which tells the spelling
  have hlength : spelling.length = spelling'.length := by
    rw [← spelling.length_write uuid, ← spelling'.length_write uuid, ← hspelling, ← hspelling',
      length_lower, length_lower]
    simpa using congrArg List.length hcapitals
  rw [Spelling.eq_of_length_eq hlength, ← hspelling'] at hspelling
  exact String.toList_inj.mp (eq_of_lower_eq hspelling hcapitals)

end LaptopCatalogue.Uuid
