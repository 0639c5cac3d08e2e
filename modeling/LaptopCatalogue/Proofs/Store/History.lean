import Mathlib.Data.Finset.Card
import LaptopCatalogue.Proofs.Run
import LaptopCatalogue.Store.Catalogue

/-!
# The history of a catalogue

What a catalogue holds and answers is a function of the operations that were performed on it. Each
operation takes the lock of the catalogue and does all of its work under it, so the operations of
any number of clients, in the order in which they got the lock, are one list of operations.

* `Catalogue.transcript` and `Catalogue.stateAfter` are the two sides of a run on a new catalogue.
* `Catalogue.Reflects` is the invariant: the catalogue holds, for each id that a record was to be
  saved with, the first such record.
* `Catalogue.first_save_wins` says what every operation of a run gives.
-/

namespace LaptopCatalogue.Catalogue

/-! ## Operations and runs -/

/-- An operation on a catalogue. A search comes with its receiver and the state that the receiver
starts in. -/
inductive Operation : Type 1 where
  | save (laptop : Laptop)
  | find (id : String)
  | search {σ : Type} (filter : Filter) (receive : Laptop → σ → Except StoreError Unit × σ) (s : σ)
  | size
  | isEmpty

inductive Result where
  | done (outcome : Outcome Unit)
  | record (outcome : Outcome (Option Laptop))
  | number (n : Nat)
  | answer (b : Bool)
deriving DecidableEq, Repr

def Result.IsError (result : Result) : Prop :=
  ∃ error, result = .done (.failed error) ∨ result = .record (.failed error)

def Operation.perform (listing : Listing) : Operation → Catalogue → Result × Catalogue
  | .save laptop, catalogue =>
    let (outcome, catalogue) := (storeBy listing).save laptop catalogue
    (.done outcome, catalogue)
  | .find id, catalogue =>
    let (outcome, catalogue) := (storeBy listing).find id catalogue
    (.record outcome, catalogue)
  | .search filter receive s, catalogue =>
    let (scan, catalogue) := (storeBy listing).search filter catalogue
    (.done (scan.run receive s).1, catalogue)
  | .size, catalogue => (.number catalogue.size, catalogue)
  | .isEmpty, catalogue => (.answer catalogue.isEmpty, catalogue)

/-- What a new catalogue answers to operations. -/
def transcript (listing : Listing) (operations : List Operation) : List (Operation × Result) :=
  (runAll (Operation.perform listing) operations empty).1

/-- A new catalogue after operations. -/
def stateAfter (listing : Listing) (operations : List Operation) : Catalogue :=
  (runAll (Operation.perform listing) operations empty).2

theorem stateAfter_snoc (listing : Listing) (before : List Operation) (operation : Operation) :
    stateAfter listing (before ++ [operation]) =
      (operation.perform listing (stateAfter listing before)).2 := by
  simp only [stateAfter, runAll_snoc]

theorem transcript_snoc (listing : Listing) (before : List Operation) (operation : Operation) :
    transcript listing (before ++ [operation]) =
      transcript listing before ++
        [(operation, (operation.perform listing (stateAfter listing before)).1)] := by
  simp only [transcript, stateAfter, runAll_snoc]

/-! ## What a history says -/

def Operation.laptop? : Operation → Option Laptop
  | .save laptop => some laptop
  | _ => none

/-- The laptops that were to be saved, the first one first. -/
def savedLaptops (history : List Operation) : List Laptop := history.filterMap Operation.laptop?

/-- The ids that laptops were to be saved with. -/
def savedIds (history : List Operation) : Finset String :=
  ((savedLaptops history).map Laptop.id).toFinset.erase ""

/-- The first laptop that was to be saved with an id. -/
def firstSaved? (history : List Operation) (id : String) : Option Laptop :=
  if id = "" then none else (savedLaptops history).find? fun laptop => laptop.id = id

/-- What the result of an operation has to be after a history. What a search gives is up to its
receiver. -/
def Accords (history : List Operation) : Operation → Result → Prop
  | .save laptop, result =>
    result = .done (if laptop.id = "" then .failed .emptyId
      else if laptop.id ∈ savedIds history then .failed (.alreadyExists laptop.id)
      else .returned ())
  | .find id, result => result = .record (.returned (firstSaved? history id))
  | .search .., result => ∃ outcome, result = .done outcome
  | .size, result => result = .number (savedIds history).card
  | .isEmpty, result => result = .answer ((savedIds history).card = 0)

theorem mem_savedIds_iff (history : List Operation) (id : String) :
    id ∈ savedIds history ↔ (firstSaved? history id).isSome := by
  by_cases hid : id = ""
  · simp [savedIds, firstSaved?, hid]
  · simp [savedIds, firstSaved?, hid]

/-- Only a save adds to what was to be saved. -/
theorem savedLaptops_snoc (history : List Operation) (operation : Operation) :
    savedLaptops (history ++ [operation]) =
      savedLaptops history ++ operation.laptop?.toList := by
  cases operation <;> simp [savedLaptops, Operation.laptop?]

theorem firstSaved?_snoc_save (history : List Operation) (laptop : Laptop) (id : String) :
    firstSaved? (history ++ [.save laptop]) id =
      (firstSaved? history id).or (if id ≠ "" ∧ id = laptop.id then some laptop else none) := by
  by_cases hid : id = ""
  · simp [firstSaved?, hid]
  · simp only [firstSaved?, hid, if_false, savedLaptops_snoc, Operation.laptop?,
      Option.toList_some, List.find?_append]
    by_cases hsame : laptop.id = id
    · simp [hsame, hid]
    · simp [hsame, hid, Ne.symm hsame]

theorem firstSaved?_snoc_of_none {history : List Operation} {operation : Operation}
    (h : operation.laptop? = none) (id : String) :
    firstSaved? (history ++ [operation]) id = firstSaved? history id := by
  simp [firstSaved?, savedLaptops_snoc, h]

/-! ## The invariant -/

/-- A catalogue holds what a history of operations says: each record stands under its own id, no id
has two records, and an id has the first record that was to be saved with it. -/
structure Reflects (history : List Operation) (catalogue : Catalogue) : Prop where
  keyed : ∀ entry ∈ catalogue.entries, entry.1 = entry.2.id
  unique : (catalogue.entries.map Prod.fst).Nodup
  first : ∀ id, catalogue.find? id = firstSaved? history id

theorem reflects_empty : Reflects [] empty := by
  constructor
  · intro entry h
    simp [empty] at h
  · simp [empty]
  · intro id
    simp [firstSaved?, savedLaptops]

/-- An operation that saves nothing and leaves the catalogue as it is keeps the invariant. -/
theorem Reflects.of_unchanged {history : List Operation} {catalogue : Catalogue}
    (h : Reflects history catalogue) {operation : Operation} (hnone : operation.laptop? = none) :
    Reflects (history ++ [operation]) catalogue := by
  refine ⟨h.keyed, h.unique, ?_⟩
  intro id
  rw [firstSaved?_snoc_of_none hnone, h.first]

/-- A refused record keeps the invariant: it has no id, or another one came first. -/
theorem Reflects.of_refused {history : List Operation} {catalogue : Catalogue}
    (h : Reflects history catalogue) {laptop : Laptop}
    (hrefused : laptop.id = "" ∨ (catalogue.find? laptop.id).isSome) :
    Reflects (history ++ [.save laptop]) catalogue := by
  refine ⟨h.keyed, h.unique, ?_⟩
  intro id
  rw [firstSaved?_snoc_save, ← h.first]
  by_cases hnew : id ≠ "" ∧ id = laptop.id
  · obtain ⟨hid, rfl⟩ := hnew
    rcases hrefused with hempty | htaken
    · exact absurd hempty hid
    · -- the first record stays the first
      rw [Option.or_of_isSome htaken]
  · simp [hnew]

theorem find?_eq_none_iff (catalogue : Catalogue) (id : String) :
    catalogue.find? id = none ↔ id ∉ catalogue.entries.map Prod.fst := by
  simp only [find?, List.lookup_eq_none_iff, List.mem_map, not_exists, not_and]
  constructor
  · intro h entry hentry hid
    simpa [hid] using h entry hentry
  · intro h entry hentry
    simpa using fun hid : id = entry.1 => h entry hentry hid.symm

theorem Reflects.insert {history : List Operation} {catalogue : Catalogue}
    (h : Reflects history catalogue) {laptop : Laptop} (hid : laptop.id ≠ "")
    (hfree : catalogue.find? laptop.id = none) :
    Reflects (history ++ [.save laptop]) (catalogue.insert laptop) := by
  constructor
  · intro entry hentry
    rcases List.mem_append.mp hentry with hold | hnew
    · exact h.keyed entry hold
    · rw [List.mem_singleton.mp hnew]
  · have hnew : laptop.id ∉ catalogue.entries.map Prod.fst :=
      (find?_eq_none_iff catalogue laptop.id).mp hfree
    simp only [Catalogue.insert, List.map_append, List.map_cons, List.map_nil]
    exact List.nodup_append.mpr ⟨h.unique, List.nodup_singleton _, by
      intro id hold key hkey hsame
      rw [List.mem_singleton.mp hkey] at hsame
      exact hnew (hsame ▸ hold)⟩
  · intro id
    rw [find?_insert, firstSaved?_snoc_save, h.first]
    by_cases hsame : id = laptop.id
    · simp [hsame, hid]
    · simp [hsame]

theorem Reflects.perform {history : List Operation} {catalogue : Catalogue}
    (h : Reflects history catalogue) (listing : Listing) (operation : Operation) :
    Reflects (history ++ [operation]) (operation.perform listing catalogue).2 := by
  cases operation with
  | save laptop =>
    rcases store_save_cases listing laptop catalogue with
      ⟨hid, hsave⟩ | ⟨_, htaken, hsave⟩ | ⟨hid, hfree, hsave⟩
    · simp only [Operation.perform, hsave]
      exact h.of_refused (Or.inl hid)
    · simp only [Operation.perform, hsave]
      exact h.of_refused (Or.inr htaken)
    · simp only [Operation.perform, hsave]
      exact h.insert hid hfree
  | find id => exact h.of_unchanged rfl
  | search filter receive s => exact h.of_unchanged rfl
  | size => exact h.of_unchanged rfl
  | isEmpty => exact h.of_unchanged rfl

/-- Every run on a new catalogue leads to a catalogue that holds what the run says. -/
theorem reflects_stateAfter (listing : Listing) (history : List Operation) :
    Reflects history (stateAfter listing history) := by
  induction history using List.reverseRecOn with
  | nil => exact reflects_empty
  | append_singleton history operation ih =>
    rw [stateAfter_snoc]
    exact ih.perform listing operation

/-! ## Results -/

/-- The records that stand in a catalogue are those with the ids that were saved. -/
theorem Reflects.size_eq {history : List Operation} {catalogue : Catalogue}
    (h : Reflects history catalogue) : catalogue.size = (savedIds history).card := by
  -- the keys are the ids that were saved, and none stands twice
  have hids : (catalogue.entries.map Prod.fst).toFinset = savedIds history := by
    ext id
    rw [List.mem_toFinset, mem_savedIds_iff, ← h.first, Option.isSome_iff_ne_none, ne_eq,
      find?_eq_none_iff, not_not]
  rw [← hids, List.toFinset_card_of_nodup h.unique, List.length_map]
  rfl

/-- In a catalogue that holds what a history says, every operation gives what the history says. -/
theorem Reflects.accords {history : List Operation} {catalogue : Catalogue}
    (h : Reflects history catalogue) (listing : Listing) (operation : Operation) :
    Accords history operation (operation.perform listing catalogue).1 := by
  cases operation with
  | save laptop =>
    have hmem : laptop.id ∈ savedIds history ↔ (catalogue.find? laptop.id).isSome := by
      rw [mem_savedIds_iff, h.first]
    rcases store_save_cases listing laptop catalogue with
      ⟨hid, hsave⟩ | ⟨hid, htaken, hsave⟩ | ⟨hid, hfree, hsave⟩
    · simp [Accords, Operation.perform, hsave, hid]
    · simp [Accords, Operation.perform, hsave, hid, hmem, htaken]
    · simp [Accords, Operation.perform, hsave, hid, hmem, hfree]
  | find id =>
    have hfind : catalogue.find? id = firstSaved? history id := h.first id
    simp [Accords, Operation.perform, storeBy, hfind]
  | search filter receive s => exact ⟨_, rfl⟩
  | size => simp [Accords, Operation.perform, h.size_eq]
  | isEmpty => simp [Accords, Operation.perform, isEmpty, h.size_eq]

/-- An operation that gives an error leaves the catalogue as it is. -/
theorem perform_of_isError (listing : Listing) (operation : Operation) (catalogue : Catalogue)
    (herror : (operation.perform listing catalogue).1.IsError) :
    (operation.perform listing catalogue).2 = catalogue := by
  cases operation with
  | save laptop =>
    rcases store_save_cases listing laptop catalogue with
      ⟨_, hsave⟩ | ⟨_, _, hsave⟩ | ⟨_, _, hsave⟩
    · simp only [Operation.perform, hsave]
    · simp only [Operation.perform, hsave]
    · -- the record was added, so the result is no error
      obtain ⟨error, hdone | hrecord⟩ := herror
      · simp [Operation.perform, hsave] at hdone
      · simp [Operation.perform, hsave] at hrecord
  | find id => rfl
  | search filter receive s => rfl
  | size => rfl
  | isEmpty => rfl

/-! ## Competing saves -/

/-- Whether an operation of a transcript saved a record with an id. -/
def isSaved (id : String) (entry : Operation × Result) : Bool :=
  entry.2 = .done (.returned ()) && entry.1.laptop?.any fun laptop => laptop.id = id

theorem savedIds_snoc_of_none {history : List Operation} {operation : Operation}
    (h : operation.laptop? = none) : savedIds (history ++ [operation]) = savedIds history := by
  simp [savedIds, savedLaptops_snoc, h]

theorem mem_savedIds_snoc_save (history : List Operation) (laptop : Laptop) (id : String) :
    id ∈ savedIds (history ++ [.save laptop]) ↔
      id ∈ savedIds history ∨ (id ≠ "" ∧ id = laptop.id) := by
  simp only [mem_savedIds_iff, firstSaved?_snoc_save, Option.isSome_or, Bool.or_eq_true]
  by_cases hnew : id ≠ "" ∧ id = laptop.id
  · simp [hnew]
  · simp [hnew]

theorem mem_savedIds_snoc {history : List Operation} {id : String} (h : id ∈ savedIds history)
    (operation : Operation) : id ∈ savedIds (history ++ [operation]) := by
  cases hlaptop : operation.laptop? with
  | none => rwa [savedIds_snoc_of_none hlaptop]
  | some laptop =>
    cases operation with
    | save laptop => exact (mem_savedIds_snoc_save history laptop id).mpr (Or.inl h)
    | _ => cases hlaptop

/-- An operation saves a record with an id exactly when the id is new with it. -/
theorem isSaved_iff {history : List Operation} {operation : Operation} {result : Result}
    (h : Accords history operation result) {id : String} (hid : id ≠ "") :
    isSaved id (operation, result) ↔
      id ∉ savedIds history ∧ id ∈ savedIds (history ++ [operation]) := by
  cases hlaptop : operation.laptop? with
  | none => simp [isSaved, hlaptop, savedIds_snoc_of_none hlaptop]
  | some laptop =>
    cases operation with
    | save laptop =>
      have hresult : result = .done _ := h
      rw [mem_savedIds_snoc_save, hresult]
      by_cases hsame : id = laptop.id
      · subst hsame
        by_cases hearlier : laptop.id ∈ savedIds history
        · simp [isSaved, hid, hearlier]
        · simp [isSaved, Operation.laptop?, hid, hearlier]
      · -- a save with another id, whatever it gives
        simp only [isSaved, Operation.laptop?, Option.any_some, Ne.symm hsame, decide_false,
          Bool.and_false, Bool.false_eq_true, hsame, and_false, or_false, false_iff, not_and]
        exact fun hnew hold => hnew hold
    | _ => cases hlaptop

/-- Of all operations that are to save a record with one id, one does. -/
theorem countP_isSaved (listing : Listing) (operations : List Operation) {id : String}
    (hid : id ≠ "") :
    (transcript listing operations).countP (isSaved id) =
      if id ∈ savedIds operations then 1 else 0 := by
  induction operations using List.reverseRecOn with
  | nil => simp [transcript, runAll, savedIds, savedLaptops]
  | append_singleton history operation ih =>
    have hsaved := isSaved_iff
      ((reflects_stateAfter listing history).accords listing operation) hid
    rw [transcript_snoc, List.countP_append, ih, List.countP_singleton]
    by_cases hold : id ∈ savedIds history
    · simp [hsaved, hold, mem_savedIds_snoc hold operation]
    · simp [hsaved, hold]

/-- Later operations do not change which laptop was the first with an id. -/
theorem firstSaved?_append {before after : List Operation} {id : String}
    (h : id ∈ savedIds before) : firstSaved? (before ++ after) id = firstSaved? before id := by
  rw [mem_savedIds_iff] at h
  by_cases hid : id = ""
  · simp [firstSaved?, hid]
  · simp only [firstSaved?, hid, if_false, savedLaptops, List.filterMap_append,
      List.find?_append] at h ⊢
    rw [Option.or_of_isSome h]

/-- The first record saved with an id wins. In every run of operations on a new catalogue, each
operation gives what the operations before it say, and one that gives an error changes nothing; at
every point of the run the catalogue holds the first record that was to be saved with each id, as it
was then, and no other. Of the saves that compete for one id exactly one succeeds, and its record is
there from then on. -/
theorem first_save_wins (listing : Listing) (operations : List Operation) :
    (∀ before operation after, operations = before ++ operation :: after →
      ∃ result, (transcript listing operations)[before.length]? = some (operation, result) ∧
        Accords before operation result ∧
        (result.IsError →
          stateAfter listing (before ++ [operation]) = stateAfter listing before)) ∧
    (∀ before, before <+: operations →
      (∀ id, (stateAfter listing before).find? id = firstSaved? before id) ∧
      (stateAfter listing before).size = (savedIds before).card ∧
      ((stateAfter listing before).isEmpty ↔ (savedIds before).card = 0) ∧
      (∀ entry ∈ (stateAfter listing before).entries, entry.1 = entry.2.id)) ∧
    (∀ id ∈ savedIds operations,
      (transcript listing operations).countP (isSaved id) = 1 ∧
      ∀ before, before <+: operations → id ∈ savedIds before →
        (stateAfter listing operations).find? id = (stateAfter listing before).find? id) := by
  refine ⟨?_, ?_, ?_⟩
  · rintro before operation after rfl
    refine ⟨_, runAll_at (Operation.perform listing) before after operation empty,
      (reflects_stateAfter listing before).accords listing operation, ?_⟩
    intro herror
    rw [stateAfter_snoc]
    exact perform_of_isError listing operation _ herror
  · intro before _
    have h : Reflects before (stateAfter listing before) := reflects_stateAfter listing before
    exact ⟨h.first, h.size_eq, by simp [isEmpty, h.size_eq], h.keyed⟩
  · intro id hmem
    have hid : id ≠ "" := (Finset.mem_erase.mp hmem).1
    refine ⟨by simp [countP_isSaved listing operations hid, hmem], ?_⟩
    rintro before ⟨after, rfl⟩ hbefore
    rw [(reflects_stateAfter listing before).first,
      (reflects_stateAfter listing (before ++ after)).first, firstSaved?_append hbefore]

/-- Two records compete for one id, with a record without an id between them. -/
theorem first_save_wins_competing :
    let kept : Laptop := { id := "a", brand := "first" }
    let late : Laptop := { id := "a", brand := "second" }
    let before : List Operation := [.save kept, .save {}]
    let operations : List Operation := before ++ .save late :: [.find "a"]
    "a" ∈ savedIds operations ∧ before <+: operations ∧ "a" ∈ savedIds before ∧
      (transcript .bySaving operations)[2]? =
        some (.save late, .done (.failed (.alreadyExists "a"))) ∧
      stateAfter .bySaving (before ++ [.save late]) = stateAfter .bySaving before ∧
      (transcript .bySaving operations).countP (isSaved "a") = 1 ∧
      (stateAfter .bySaving operations).find? "a" = some kept := by
  intro kept late before operations
  have hmem : "a" ∈ savedIds operations := by decide
  have hbefore : before <+: operations := List.prefix_append _ _
  have hearlier : "a" ∈ savedIds before := by decide
  obtain ⟨hresults, hstates, hcompeting⟩ := first_save_wins .bySaving operations
  obtain ⟨result, hat, haccords, hunchanged⟩ := hresults before (.save late) [.find "a"] rfl
  have hresult : result = .done (.failed (.alreadyExists "a")) := haccords
  have hfirst : (stateAfter .bySaving before).find? "a" = some kept :=
    (hstates before hbefore).1 "a"
  obtain ⟨hcount, hkept⟩ := hcompeting "a" hmem
  refine ⟨hmem, hbefore, hearlier, hresult ▸ hat, hunchanged ⟨_, Or.inl hresult⟩, hcount, ?_⟩
  rw [hkept before hbefore hearlier, hfirst]

end LaptopCatalogue.Catalogue
