import LaptopCatalogue.Proofs.Wire.Acceptance

/-!
# Merging concatenations

Every bound of a reader is a count of the bytes that are left, so bytes that are appended could be
seen from inside an earlier record. They are not: a reader that takes a grammar reads the same value
whatever follows it. So merging a concatenation is merging its parts one after another, up to the
first failure.

* `readRecords_fuel`: more fuel than bytes makes no difference.
* `readRecords_append`: after the records of a first part, a run goes on as if it began there.
* `Schema.mergeWithin`: merging with so many levels of nesting left.
* `merging_concatenates`: the statement about every message and all parts.
-/

namespace LaptopCatalogue.Wire

variable {σ : Type}

section

variable {step : Nat → WireType → σ → Bytes → Except Failure (σ × Bytes)}
  {field : Nat → WireType → σ → Bytes → σ → Prop} {limit : Nat} {m m' : σ} {bs rest : Bytes}

/-- Each record takes a byte at least, so fuel for every byte is fuel enough. -/
theorem readRecords_fuel
    (h : ∀ number wireType m, Takes (step number wireType m) (field number wireType m))
    {fuel fuel' : Nat} (hfuel : bs.length ≤ fuel) (hfuel' : bs.length ≤ fuel') :
    readRecords step limit fuel m bs = readRecords step limit fuel' m bs := by
  induction fuel generalizing fuel' m bs with
  | zero =>
    have hempty : bs.length ≤ limit := Nat.le_trans hfuel (Nat.zero_le limit)
    cases fuel' with
    | zero => rfl
    | succ fuel' => simp [readRecords, hempty]
  | succ fuel ih =>
    by_cases hdone : bs.length ≤ limit
    · cases fuel' with
      | zero => simp [readRecords, hdone]
      | succ fuel' => simp [readRecords, hdone]
    · cases fuel' with
      | zero => omega
      | succ fuel' =>
        simp only [readRecords, hdone, if_false]
        cases hkey : readKey bs with
        | error failure => rfl
        | ok result =>
          obtain ⟨⟨number, wireType⟩, bs₁⟩ := result
          obtain ⟨key, rfl, hspelled⟩ := takes_readKey.sound hkey
          have hpos := hspelled.length_pos
          -- a failure is the same with any fuel, and a record leaves less than there was
          simp only [bind, Except.bind]
          cases hvalue : step number wireType m bs₁ with
          | error failure => rfl
          | ok result =>
            obtain ⟨m₁, bs₂⟩ := result
            obtain ⟨value, rfl, _⟩ := (h number wireType m).sound hvalue
            have hless : bs₂.length ≤ fuel ∧ bs₂.length ≤ fuel' := by
              simp only [List.length_append] at hfuel hfuel'
              omega
            exact ih hless.1 hless.2

/-- After the records of a first part, a run goes on as if it began there. -/
theorem readRecords_append
    (h : ∀ number wireType m, Takes (step number wireType m) (field number wireType m))
    {used : Bytes} (hrecords : Records field m used m') (rest : Bytes) {fuel : Nat}
    (hfuel : (used ++ rest).length ≤ fuel) :
    readRecords step 0 fuel m (used ++ rest) = readRecords step 0 rest.length m' rest := by
  induction hrecords generalizing fuel with
  | nil m => exact readRecords_fuel h hfuel (Nat.le_refl _)
  | @cons number wireType key value fields m m₁ m₂ hkey hvalue _ ih =>
    have hpos := hkey.length_pos
    simp only [List.append_assoc] at hfuel ⊢
    cases fuel with
    | zero =>
      simp only [List.length_append] at hfuel
      omega
    | succ fuel =>
      have hmore : ¬(key ++ (value ++ (fields ++ rest))).length ≤ 0 := by
        simp only [List.length_append]
        omega
      have hread := takes_readKey.complete (v := (number, wireType)) hkey
        (value ++ (fields ++ rest))
      have hset := (h number wireType m).complete hvalue (fields ++ rest)
      have hless : (fields ++ rest).length ≤ fuel := by
        simp only [List.length_append] at hfuel ⊢
        omega
      have hrest := ih hless
      simp only [readRecords, hmore, if_false, hread, hset, hrest, bind, Except.bind]

end

namespace Schema

/-- Reads every record of the input into a message, with so many levels of nesting left. -/
def mergeWithin (schema : Schema) (budget : Nat) (r : schema.Record) (bs : Bytes) :
    Except Failure schema.Record :=
  (readRecords (schema.mergeField budget) 0 bs.length r bs).map Prod.fst

/-- What stands behind a first part is merged into what the first part was merged to. -/
theorem mergeWithin_append {schema : Schema} {budget : Nat} {r r' : schema.Record} {a : Bytes}
    (h : schema.mergeWithin budget r a = .ok r') (b : Bytes) :
    schema.mergeWithin budget r (a ++ b) = schema.mergeWithin budget r' b := by
  obtain ⟨⟨r'', rest⟩, hread, rfl⟩ := map_eq_ok_iff.mp h
  obtain ⟨-, hrecords⟩ := (readRecords_all_iff (schema.takes_mergeField budget)).mp hread
  unfold mergeWithin
  rw [readRecords_append (schema.takes_mergeField budget) hrecords b (Nat.le_refl _)]

theorem merge_append (schema : Schema) {r r' : schema.Record} {a : Bytes}
    (h : schema.merge r a = .ok r') (b : Bytes) :
    schema.merge r (a ++ b) = schema.merge r' b :=
  mergeWithin_append h b

end Schema

section

variable {α : Type} [Message α]

/-- Where a first part is merged, what follows has the outcome that it has on top of the result. -/
theorem merge_append {m m' : α} {a : Bytes} (h : merge m a = .ok m') (b : Bytes) :
    merge m (a ++ b) = merge m' b := by
  unfold merge at h ⊢
  obtain ⟨r, hmerge, hrecord⟩ := map_eq_ok_iff.mp h
  rw [(ofRecord_eq_iff r m').mp hrecord] at hmerge
  rw [Schema.merge_append _ hmerge b]

theorem merge_nil (m : α) : merge m [] = .ok m := by
  rw [merge_eq_ok_iff]
  exact .nil _

/-- Merges parts one after another, as long as none fails. -/
def mergeAll (parts : List Bytes) (m : α) : Except Failure α :=
  parts.foldlM merge m

theorem mergeAll_eq_ok {parts : List Bytes} {m m' : α} (h : mergeAll parts m = .ok m')
    (b : Bytes) : merge m (parts.flatten ++ b) = merge m' b := by
  induction parts generalizing m with
  | nil =>
    obtain rfl : m = m' := by simpa [mergeAll, pure, Except.pure] using h
    rfl
  | cons part parts ih =>
    simp only [mergeAll, List.foldlM_cons, bind_eq_ok_iff] at h
    obtain ⟨m₁, hfirst, hrest⟩ := h
    rw [List.flatten_cons, List.append_assoc, merge_append hfirst]
    exact ih hrest

/-- Merging turns concatenation into succession. Where a first part is merged, merging more bytes
behind it has the outcome, be it a message or a failure, that merging them into the result has. So
parts that all can be merged make the message that their concatenation is decoded to, and if a part
is the first to fail, decoding the concatenation up to it fails in the same way. -/
theorem merging_concatenates (m : α) :
    (∀ a m', merge m a = .ok m' → ∀ b, merge m (a ++ b) = merge m' b) ∧
    ∀ parts, ∀ m' : α, mergeAll parts emptyMessage = .ok m' →
      decode parts.flatten = .ok m' ∧
      ∀ part failure, merge m' part = .error failure →
        mergeAll (parts ++ [part]) (emptyMessage : α) = .error failure ∧
        (decode (parts ++ [part]).flatten : Except Failure α) = .error failure := by
  refine ⟨fun a m' h b => merge_append h b, ?_⟩
  intro parts m' hparts
  have hdecode (b : Bytes) : (decode (parts.flatten ++ b) : Except Failure α) = merge m' b :=
    mergeAll_eq_ok hparts b
  constructor
  · rw [← List.append_nil parts.flatten, hdecode, merge_nil]
  · intro part failure hpart
    constructor
    · unfold mergeAll at hparts ⊢
      simp [List.foldlM_append, hparts, hpart, bind, Except.bind]
    · simp [hdecode, hpart]

/-- Two parts of a card whose memory they fill together, and a third one that breaks off inside of
it. -/
theorem merging_concatenates_memory :
    let card (memory : Memory) : Gpu := { memory := some memory }
    let first : Bytes := [0x2a, 2, 0x08, 5]
    let second : Bytes := [0x2a, 2, 0x10, 3]
    let broken : Bytes := [0x2a, 2, 0x08]
    let failure : Failure := ⟨[⟨"Gpu", "memory"⟩], .underflow⟩
    merge {} first = .ok (card { value := 5 }) ∧
      mergeAll [first, second] emptyMessage = .ok (card { value := 5, unit := 3 }) ∧
      merge (card { value := 5, unit := 3 }) broken = .error failure ∧
      merge {} (first ++ broken) = merge (card { value := 5 }) broken ∧
      decode [0x2a, 2, 0x08, 5, 0x2a, 2, 0x10, 3] = .ok (card { value := 5, unit := 3 }) ∧
      (decode [0x2a, 2, 0x08, 5, 0x2a, 2, 0x10, 3, 0x2a, 2, 0x08] : Except Failure Gpu) =
        .error failure := by
  intro card first second broken failure
  have hfirst : merge {} first = .ok (card { value := 5 }) := by rfl
  have hparts : mergeAll [first, second] emptyMessage = .ok (card { value := 5, unit := 3 }) := by
    rfl
  have hbroken : merge (card { value := 5, unit := 3 }) broken = .error failure := by rfl
  obtain ⟨happend, hall⟩ := merging_concatenates (α := Gpu) {}
  obtain ⟨hdecode, hfails⟩ := hall _ _ hparts
  exact ⟨hfirst, hparts, hbroken, happend first _ hfirst broken, hdecode,
    (hfails broken _ hbroken).2⟩

end

end LaptopCatalogue.Wire
