import LaptopCatalogue.Toml.Document

/-!
# Numbers in decimal digits

A number that is written in decimal digits, without a zero in front, is read as that integer, as
long as it has 63 binary digits at most. It is not mistaken for anything else that a word can be.

* `numberOfDigits?_toDigits`: the digits of a number make that number.
* `isMoment_of_digits`: digits alone are no date and no time.
* `ofWord?_toDigits`: the digits of a number are the integer.
* `value?_toDigits`: where a value is looked for, nothing stays behind the digits.
-/

namespace LaptopCatalogue.Toml

/-! ## Digits -/

theorem toNat_of_isDigit {c : Char} (h : c.isDigit) : 48 ≤ c.toNat ∧ c.toNat ≤ 57 := by
  simpa [Char.isDigit, UInt32.le_iff_toNat_le] using h

theorem digitValue?_of_isDigit {c : Char} (h : c.isDigit) :
    digitValue? 10 c = some (c.toNat - '0'.toNat) := by
  obtain ⟨hlow, hhigh⟩ := toNat_of_isDigit h
  have hrange : '0' ≤ c ∧ c ≤ '9' := ⟨hlow, hhigh⟩
  have hlt : c.toNat - '0'.toNat < 10 :=
    Nat.lt_of_le_of_lt (Nat.sub_le_sub_right hhigh _) (by decide)
  unfold digitValue? hexValue?
  rw [if_pos hrange, Option.filter_some, if_pos (decide_eq_true hlt)]

theorem isDigitIn_of_isDigit {c : Char} (h : c.isDigit) : isDigitIn 10 c := by
  unfold isDigitIn
  rw [digitValue?_of_isDigit h]
  rfl

theorem ne_of_isDigit {c mark : Char} (h : c.isDigit) (hmark : ¬mark.isDigit) : c ≠ mark := by
  rintro rfl
  exact hmark h

section

variable {ds : List Char}

theorem numberOfDigits?_of_digits (h : ∀ c ∈ ds, c.isDigit) :
    numberOfDigits? 10 ds = some (Nat.ofDigitChars 10 ds 0) := by
  -- what was read so far is general, since every digit changes it
  have hfrom : ∀ n, ds.foldlM (fun n c => (digitValue? 10 c).map (10 * n + ·)) n =
      some (Nat.ofDigitChars 10 ds n) := by
    induction ds with
    | nil =>
      intro n
      rfl
    | cons c ds ih =>
      intro n
      have hc := digitValue?_of_isDigit (h c List.mem_cons_self)
      rw [List.foldlM_cons, hc]
      exact ih (fun d hd => h d (List.mem_cons_of_mem _ hd)) _
  exact hfrom 0

theorem withoutSeparators?_of_digits (hne : ds ≠ []) (h : ∀ c ∈ ds, c.isDigit) :
    withoutSeparators? (isDigitIn 10) ds = some ds := by
  induction ds with
  | nil => exact absurd rfl hne
  | cons c ds ih =>
    have hc := isDigitIn_of_isDigit (h c List.mem_cons_self)
    cases ds with
    | nil => simp [withoutSeparators?, hc]
    | cons d ds =>
      have hd : d ≠ '_' := ne_of_isDigit (h d (by simp)) (by decide)
      have hrest := ih (List.cons_ne_nil _ _) fun e he => h e (List.mem_cons_of_mem _ he)
      simp [withoutSeparators?, hd, hc, hrest]

end

theorem toDigits_ne_nil (n : Nat) : Nat.toDigits 10 n ≠ [] := by
  rw [Nat.toDigits_eq_if (by decide)]
  split
  · exact List.cons_ne_nil _ _
  · simp

theorem isDigit_of_mem_toDigits {n : Nat} {c : Char} (h : c ∈ Nat.toDigits 10 n) : c.isDigit :=
  Nat.isDigit_of_mem_toDigits (by decide) (by decide) h

theorem numberOfDigits?_toDigits (n : Nat) : numberOfDigits? 10 (Nat.toDigits 10 n) = some n := by
  rw [numberOfDigits?_of_digits fun c hc => isDigit_of_mem_toDigits hc, Nat.ofDigitChars_toDigits
    (by decide) (by decide)]

/-- Only zero begins with a zero. -/
theorem head?_toDigits {n : Nat} (h : n ≠ 0) : (Nat.toDigits 10 n).head? ≠ some '0' := by
  induction n using Nat.strongRecOn with
  | ind n ih =>
    rw [Nat.toDigits_eq_if (by decide)]
    split
    · rename_i hlt
      have hdigit : ∀ d < 10, d ≠ 0 → [d.digitChar].head? ≠ some '0' := by decide
      exact hdigit n hlt h
    · rename_i hlt
      have hquotient : n / 10 ≠ 0 := by omega
      have hsmaller : n / 10 < n := by omega
      obtain ⟨c, ds, hds⟩ := List.exists_cons_of_ne_nil (toDigits_ne_nil (n / 10))
      have hhead := ih (n / 10) hsmaller hquotient
      rw [hds] at hhead ⊢
      exact hhead

theorem plainDigits?_toDigits (n : Nat) :
    plainDigits? (Nat.toDigits 10 n) = some (Nat.toDigits 10 n) := by
  have hrun : digitRun? 10 (Nat.toDigits 10 n) = some (Nat.toDigits 10 n) :=
    withoutSeparators?_of_digits (toDigits_ne_nil n) fun c hc => isDigit_of_mem_toDigits hc
  unfold plainDigits?
  rw [hrun, Option.filter_some]
  by_cases hzero : n = 0
  · subst hzero
    rfl
  · simp [head?_toDigits hzero]

/-! ## Words of digits -/

section

variable {ds : List Char}

/-- Behind a number in digits there are digits. -/
theorem digits_behind_number? (h : ∀ c ∈ ds, c.isDigit) {count n : Nat} {rest : List Char}
    (hnumber : number? count ds = some (n, rest)) : ∀ c ∈ rest, c.isDigit := by
  unfold number? at hnumber
  dsimp only at hnumber
  split at hnumber
  · obtain ⟨m, _, hrest⟩ := Option.bind_eq_some_iff.mp hnumber
    cases hrest
    intro c hc
    exact h c (List.mem_of_mem_drop hc)
  · cases hnumber

theorem marked?_of_digits (h : ∀ c ∈ ds, c.isDigit) (mark : Char) (hmark : ¬mark.isDigit)
    (low high : Nat) : marked? mark low high ds = none := by
  cases ds with
  | nil => rfl
  | cons c ds =>
    have hc : c ≠ mark := ne_of_isDigit (h c List.mem_cons_self) hmark
    unfold marked?
    simp [hc]

theorem afterDate?_of_digits (h : ∀ c ∈ ds, c.isDigit) : afterDate? ds = none := by
  unfold afterDate?
  cases hyear : number? 4 ds with
  | none => rfl
  | some year =>
    have hmonth := marked?_of_digits (digits_behind_number? h hyear) '-' (by decide) 1 12
    simp [hmonth]

theorem afterTime?_of_digits (h : ∀ c ∈ ds, c.isDigit) : afterTime? ds = none := by
  unfold afterTime?
  cases hhour : number? 2 ds with
  | none => rfl
  | some hour =>
    have hminute := marked?_of_digits (digits_behind_number? h hhour) ':' (by decide) 0 59
    simp [hminute]

theorem isMoment_of_digits (h : ∀ c ∈ ds, c.isDigit) : isMoment ds = false := by
  unfold isMoment
  rw [afterDate?_of_digits h, afterTime?_of_digits h]
  rfl

theorem word_of_digits (h : ∀ c ∈ ds, c.isDigit) : word ds = ds := by
  have hchars : ∀ c ∈ ds, isWordChar c := by
    intro c hc
    simp [isWordChar, Char.isAlphanum, h c hc]
  have hword : ds.takeWhile isWordChar = ds := by
    have happend : (ds ++ []).takeWhile isWordChar = ds ++ [].takeWhile isWordChar :=
      List.takeWhile_append_of_pos hchars
    simpa using happend
  unfold word
  simp only [hword, List.drop_length]

end

theorem integer?_toDigits {n : Nat} (h : n < Nat.pow 2 63) :
    integer? (Nat.toDigits 10 n) = some (n : Int) := by
  have hdigits : ∀ c ∈ Nat.toDigits 10 n, c.isDigit := fun c hc => isDigit_of_mem_toDigits hc
  have hplain := plainDigits?_toDigits n
  have hnumber : ofDigits 10 (Nat.toDigits 10 n) = n := by
    unfold ofDigits
    rw [numberOfDigits?_toDigits]
    rfl
  have hlow : -Int.pow 2 63 ≤ (n : Int) := by
    have hpow : (0 : Int) ≤ Int.pow 2 63 := by decide
    omega
  have hhigh : (n : Int) < Int.pow 2 63 := by
    have hpow : Int.pow 2 63 = (Nat.pow 2 63 : Nat) := by decide
    omega
  generalize Nat.toDigits 10 n = ds at hdigits hplain hnumber
  unfold integer?
  -- a base and a sign are written with characters that are no digits
  split
  · exact absurd (hdigits 'x' (by simp)) (by decide)
  · exact absurd (hdigits 'o' (by simp)) (by decide)
  · exact absurd (hdigits 'b' (by simp)) (by decide)
  · have hsigned : signed ds = (false, ds) := by
      unfold signed
      split
      · exact absurd (hdigits '-' (by simp)) (by decide)
      · exact absurd (hdigits '+' (by simp)) (by decide)
      · rfl
    simp only [hsigned, hplain, Option.map_some, hnumber, Bool.false_eq_true, if_false,
      Option.filter_some, decide_eq_true hlow, decide_eq_true hhigh, Bool.and_self, if_true]

theorem ofWord?_toDigits {n : Nat} (h : n < Nat.pow 2 63) :
    Value.ofWord? (Nat.toDigits 10 n) = some (.integer n) := by
  have hdigits : ∀ c ∈ Nat.toDigits 10 n, c.isDigit := fun c hc => isDigit_of_mem_toDigits hc
  have hinteger := integer?_toDigits h
  generalize Nat.toDigits 10 n = ds at hdigits hinteger
  have htrue : ds ≠ "true".toList := by
    rintro rfl
    exact absurd (hdigits 't' (by decide)) (by decide)
  have hfalse : ds ≠ "false".toList := by
    rintro rfl
    exact absurd (hdigits 'f' (by decide)) (by decide)
  unfold Value.ofWord?
  rw [if_neg htrue, if_neg hfalse, if_neg (by simp [isMoment_of_digits hdigits]), hinteger]
  rfl

theorem value?_toDigits {n : Nat} (h : n < Nat.pow 2 63) (nesting : Nat) :
    value? nesting (Nat.toDigits 10 n) = some (.integer n, []) := by
  have hdigits : ∀ c ∈ Nat.toDigits 10 n, c.isDigit := fun c hc => isDigit_of_mem_toDigits hc
  have hword := word_of_digits hdigits
  have hvalue := ofWord?_toDigits h
  generalize Nat.toDigits 10 n = ds at hdigits hword hvalue
  unfold value?
  -- brackets, braces and quotes are no digits
  split
  · exact absurd (hdigits '[' (by simp)) (by decide)
  · exact absurd (hdigits '\x7b' (by simp)) (by decide)
  · exact absurd (hdigits '"' (by simp)) (by decide)
  · exact absurd (hdigits '\'' (by simp)) (by decide)
  · simp [hword, hvalue]

theorem skipBlanks_toDigits (n : Nat) :
    skipBlanks (' ' :: Nat.toDigits 10 n) = Nat.toDigits 10 n := by
  have hdigits : ∀ c ∈ Nat.toDigits 10 n, c.isDigit := fun c hc => isDigit_of_mem_toDigits hc
  have hne := toDigits_ne_nil n
  generalize Nat.toDigits 10 n = ds at hdigits hne
  obtain ⟨c, ds, rfl⟩ := List.exists_cons_of_ne_nil hne
  have hspace : c ≠ ' ' := ne_of_isDigit (hdigits c List.mem_cons_self) (by decide)
  have htab : c ≠ '\t' := ne_of_isDigit (hdigits c List.mem_cons_self) (by decide)
  simp [skipBlanks, isBlankChar, hspace, htab]

end LaptopCatalogue.Toml
