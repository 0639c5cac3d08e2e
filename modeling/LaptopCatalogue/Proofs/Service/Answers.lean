import LaptopCatalogue.Proofs.Service.StoreCalls

/-!
# What the store answers

A call of the service asks the store at most once, and what it replies and logs is made of what the
store answers.

* `Store.recording` records what a store is asked and what it answers, and does not disturb it.
* `Service.Call.answers` is what is recorded during one call, and `Service.answersDuring` during a
  run; `Service.perform_recording` and `Service.runAll_recording` say so.
* `Service.createdId?_perform` ties the answers of the store to the replies, and
  `Service.flatMap_runAll` takes such ties from one call to a run.
-/

namespace LaptopCatalogue

variable {σ : Type}

/-- What a store is asked, with its answer. -/
inductive StoreAnswer where
  | saved (laptop : Laptop) (outcome : Outcome Unit)
  | found (id : String) (outcome : Outcome (Option Laptop))
  | searched (filter : Filter) (scan : Scan)
deriving DecidableEq, Repr

/-- A store that records its answers, the first one first. -/
def Store.recording (store : Store σ) : Store (σ × List StoreAnswer) where
  save laptop recorded :=
    let (outcome, s) := store.save laptop recorded.1
    (outcome, s, recorded.2 ++ [.saved laptop outcome])
  find id recorded :=
    let (outcome, s) := store.find id recorded.1
    (outcome, s, recorded.2 ++ [.found id outcome])
  search filter recorded :=
    let (scan, s) := store.search filter recorded.1
    (scan, s, recorded.2 ++ [.searched filter scan])

/-- What the store was asked. -/
def StoreAnswer.call : StoreAnswer → StoreCall
  | .saved laptop _ => .save laptop
  | .found id _ => .find id
  | .searched filter _ => .search filter

/-- The id of the record that was saved, if one was. -/
def StoreAnswer.savedId? : StoreAnswer → Option String
  | .saved laptop (.returned ()) => some laptop.id
  | _ => none

namespace Service

section

variable (store : Store σ) (buffer : Nat)

/-- What the store is asked and answers during a call. -/
def Call.answers : Call → σ → List StoreAnswer
  | .create entropy request, s =>
    ((dueRecord entropy request).map fun record => .saved record (store.save record s).1).toList
  | .find request, s =>
    if request.id = "" then [] else [.found request.id (store.find request.id s).1]
  | .search request, s =>
    if Stream.capacityFor buffer ≤ Stream.maxCapacity then
      [.searched (request.filter.getD {}) (store.search (request.filter.getD {}) s).1]
    else []

/-- What the store is asked and answers during a run. -/
def answersDuring : List Call → σ → List StoreAnswer
  | [], _ => []
  | call :: calls, s =>
    call.answers store buffer s ++ answersDuring calls (call.perform store buffer s).2

/-- The store answers what is due. -/
theorem map_call_answers (call : Call) (s : σ) :
    (call.answers store buffer s).map StoreAnswer.call = call.due buffer := by
  cases call with
  | create entropy request =>
    cases hrecord : dueRecord entropy request <;>
      simp [Call.answers, Call.due, hrecord, StoreAnswer.call]
  | find request =>
    by_cases hid : request.id = "" <;> simp [Call.answers, Call.due, hid, StoreAnswer.call]
  | search request =>
    by_cases hadmitted : Stream.capacityFor buffer ≤ Stream.maxCapacity <;>
      simp [Call.answers, Call.due, hadmitted, StoreAnswer.call]

theorem saveResolved_recording (laptop : Laptop) (s : σ) (recorded : List StoreAnswer) :
    saveResolved store.recording laptop (s, recorded) =
      ((saveResolved store laptop s).1, (saveResolved store laptop s).2,
        recorded ++ [.saved laptop (store.save laptop s).1]) := by
  rcases hsave : store.save laptop s with ⟨outcome, s'⟩
  cases outcome <;> simp [saveResolved, Store.recording, hsave]

/-- A call of a store that records its answers is the call of the store. -/
theorem perform_recording (call : Call) (s : σ) (recorded : List StoreAnswer) :
    call.perform store.recording buffer (s, recorded) =
      ((call.perform store buffer s).1, (call.perform store buffer s).2,
        recorded ++ call.answers store buffer s) := by
  cases call with
  | create entropy request =>
    cases hlaptop : request.laptop with
    | none => simp [Call.perform, Call.answers, create, dueRecord, hlaptop]
    | some laptop =>
      have hdue := dueRecord_eq hlaptop entropy
      cases hresolved : (resolveId laptop.id entropy).answer with
      | error status =>
        simp [Call.perform, Call.answers, create, hdue, hlaptop, hresolved, Except.toOption]
      | ok id =>
        simp [Call.perform, Call.answers, create, hdue, hlaptop, hresolved, Except.toOption,
          saveResolved_recording]
  | find request =>
    by_cases hid : request.id = ""
    · simp [Call.perform, Call.answers, find, hid]
    · rcases hfind : store.find request.id s with ⟨outcome, s'⟩
      cases outcome <;> simp [Call.perform, Call.answers, find, hid, Store.recording, hfind]
  | search request =>
    by_cases hadmitted : Stream.capacityFor buffer ≤ Stream.maxCapacity
    · simp [Call.perform, Call.answers, search, hadmitted, Store.recording]
    · simp [Call.perform, Call.answers, search, hadmitted]

theorem runAll_recording (calls : List Call) (s : σ) (recorded : List StoreAnswer) :
    runAll (Call.perform store.recording buffer) calls (s, recorded) =
      ((runAll (Call.perform store buffer) calls s).1,
        (runAll (Call.perform store buffer) calls s).2,
        recorded ++ answersDuring store buffer calls s) := by
  -- the answers recorded so far grow from step to step, so they are general in the induction
  induction calls generalizing s recorded with
  | nil => simp [runAll, answersDuring]
  | cons call calls ih => simp [runAll, answersDuring, perform_recording, ih]

/-- Each answer of a run is an answer of one of its calls. -/
theorem exists_of_mem_answersDuring {calls : List Call} {s : σ} {answer : StoreAnswer}
    (h : answer ∈ answersDuring store buffer calls s) :
    ∃ before call after, calls = before ++ call :: after ∧
      answer ∈ call.answers store buffer (runAll (Call.perform store buffer) before s).2 := by
  induction calls generalizing s with
  | nil => cases h
  | cons call calls ih =>
    rcases List.mem_append.mp h with hfirst | hlater
    · exact ⟨[], call, calls, rfl, hfirst⟩
    · obtain ⟨before, call', after, rfl, hmem⟩ := ih hlater
      exact ⟨call :: before, call', after, rfl, hmem⟩

/-- A call replies that a record was stored exactly if the store saved one, and with its id. -/
theorem createdId?_perform (call : Call) (s : σ) :
    (call.perform store buffer s).1.createdId?.toList =
      (call.answers store buffer s).filterMap StoreAnswer.savedId? := by
  cases call with
  | create entropy request =>
    have hdue := create_due store entropy request s
    cases hrecord : dueRecord entropy request with
    | none =>
      simp only [hrecord] at hdue
      obtain ⟨⟨status, _, hanswer⟩, _⟩ := hdue
      rw [Call.perform, createdId?_of_error hanswer, Call.answers, hrecord]
      rfl
    | some record =>
      simp only [hrecord] at hdue
      have htells := (saveResolved_tells store record s).1
      rw [← hdue.1] at htells
      simp only [Call.perform, Reply.createdId?, Call.answers, hrecord, Option.map_some,
        Option.toList_some]
      generalize (create store entropy request s).1.answer = answer at htells
      generalize (store.save record s).1 = outcome at htells
      cases htells with
      | returned _ => rfl
      | failed _ => rfl
      | aborted _ _ => rfl
  | find request =>
    by_cases hid : request.id = ""
    · simp [Call.perform, Reply.createdId?, Call.answers, hid]
    · simp [Call.perform, Reply.createdId?, Call.answers, hid, StoreAnswer.savedId?]
  | search request =>
    by_cases hadmitted : Stream.capacityFor buffer ≤ Stream.maxCapacity
    · simp [Call.perform, Reply.createdId?, Call.answers, hadmitted, StoreAnswer.savedId?]
    · simp [Call.perform, Reply.createdId?, Call.answers, hadmitted]

/-- The ids of the records that were stored in a run, as its replies say. -/
def createdIds (transcript : List (Call × Reply)) : List String :=
  transcript.filterMap fun entry => entry.2.createdId?

theorem createdIds_append (before after : List (Call × Reply)) :
    createdIds (before ++ after) = createdIds before ++ createdIds after :=
  List.filterMap_append

theorem createdIds_cons (call : Call) (reply : Reply) (transcript : List (Call × Reply)) :
    createdIds ((call, reply) :: transcript) =
      reply.createdId?.toList ++ createdIds transcript := by
  unfold createdIds
  rw [List.filterMap_cons]
  cases reply.createdId? <;> rfl

/-- What each call makes of the answers that it gets, a run makes of all of them. -/
theorem flatMap_runAll {β : Type} {told : Call × Reply → List β} {tell : StoreAnswer → List β}
    (hstep : ∀ call s, told (call, (call.perform store buffer s).1) =
      (call.answers store buffer s).flatMap tell)
    (calls : List Call) (s : σ) :
    (runAll (Call.perform store buffer) calls s).1.flatMap told =
      (answersDuring store buffer calls s).flatMap tell := by
  induction calls generalizing s with
  | nil => rfl
  | cons call calls ih =>
    rw [answersDuring, List.flatMap_append, ← hstep call s, ← ih]
    exact List.flatMap_cons

/-- What the replies of a run say was stored is what the store saved, in order. -/
theorem createdIds_runAll (calls : List Call) (s : σ) :
    createdIds (runAll (Call.perform store buffer) calls s).1 =
      (answersDuring store buffer calls s).filterMap StoreAnswer.savedId? := by
  unfold createdIds
  rw [List.filterMap_eq_flatMap_toList, List.filterMap_eq_flatMap_toList]
  apply flatMap_runAll
  intro call s
  rw [createdId?_perform, List.filterMap_eq_flatMap_toList]

end

end Service

end LaptopCatalogue
