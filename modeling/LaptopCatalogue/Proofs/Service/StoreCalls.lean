import LaptopCatalogue.Proofs.Run
import LaptopCatalogue.Proofs.Service.Calls
import LaptopCatalogue.Proofs.Stream.Delivery

/-!
# What a call asks of the store

A call checks its request before it asks the store for anything. Then it asks once, and the client
is told what became of it, whether the store succeeded, failed or aborted. This holds for every
store and every state of it.

* `Store.noting` notes what a store is asked for and does not disturb it.
* `Service.Call.due` says what a call asks for, from the request alone.
* `Service.Tells` relates what a store did to what the client is told.
* `Service.perform_noting` is the step, `Service.runAll_noting` is the run.
* `Service.calls_ask_once` is the statement about every store and all runs.
-/

namespace LaptopCatalogue

variable {σ : Type}

/-- What a store can be asked for. -/
inductive StoreCall where
  | save (laptop : Laptop)
  | find (id : String)
  | search (filter : Filter)
deriving DecidableEq, Repr

/-- A store that notes what it is asked for, the first call first. -/
def Store.noting (store : Store σ) : Store (σ × List StoreCall) where
  save laptop noted :=
    let (outcome, s) := store.save laptop noted.1
    (outcome, s, noted.2 ++ [.save laptop])
  find id noted :=
    let (outcome, s) := store.find id noted.1
    (outcome, s, noted.2 ++ [.find id])
  search filter noted :=
    let (scan, s) := store.search filter noted.1
    (scan, s, noted.2 ++ [.search filter])

namespace Service

/-! ## What is due -/

/-- The record that a request asks to have stored: its own, under a new id if it comes without one.
There is none if the request has none, or one whose id is not a UUID, or one for which no id can be
made. -/
def dueRecord (entropy : Entropy) (request : CreateRequest) : Option Laptop :=
  request.laptop.bind fun laptop =>
    if laptop.id = "" then
      entropy.toOption.map fun bytes => { laptop with id := bytes.version4.text }
    else if (Uuid.parse laptop.id).isOk then some laptop
    else none

/-- What a call asks the store for. A search whose channel cannot be made asks for nothing. -/
def Call.due (buffer : Nat) : Call → List StoreCall
  | .create entropy request => ((dueRecord entropy request).map StoreCall.save).toList
  | .find request => if request.id = "" then [] else [.find request.id]
  | .search request =>
    if Stream.capacityFor buffer ≤ Stream.maxCapacity then [.search (request.filter.getD {})]
    else []

/-- The record that is due is the one under the id that its own resolves to. -/
theorem dueRecord_eq {request : CreateRequest} {laptop : Laptop}
    (h : request.laptop = some laptop) (entropy : Entropy) :
    dueRecord entropy request =
      (resolveId laptop.id entropy).answer.toOption.map fun id => { laptop with id } := by
  unfold dueRecord
  rcases resolveId_cases laptop.id entropy with
    ⟨hid, bytes, hbytes, hresolved⟩ | ⟨hid, cause, hcause, hresolved⟩ |
      ⟨hid, hparse, hresolved⟩ | ⟨hid, hparse, reason, hresolved⟩
  · rw [h, hresolved, Option.bind_some, if_pos hid, hbytes]
    rfl
  · rw [h, hresolved, Option.bind_some, if_pos hid, hcause]
    rfl
  · rw [h, hresolved, Option.bind_some, if_neg hid, if_pos hparse]
    rfl
  · rw [h, hresolved, Option.bind_some, if_neg hid, if_neg hparse]
    rfl

/-- For a request that is declined no record is due. -/
theorem dueRecord_of_declines {entropy : Entropy} {request : CreateRequest} {status : Status}
    (h : Declines entropy request status) : dueRecord entropy request = none := by
  cases h with
  | missing hlaptop => simp [dueRecord, hlaptop]
  | malformed hlaptop hid hparse reason => simp [dueRecord, hlaptop, hid, hparse]
  | unread hcause =>
    obtain ⟨laptop, hlaptop, hid, rfl⟩ := unreadCause?_eq_some_iff.mp hcause
    simp [dueRecord, hlaptop, hid, Except.toOption]

/-! ## What is told -/

/-- Whether an answer refuses the request itself. -/
def Refuses {β : Type} (answer : Except Status β) : Prop :=
  ∃ message, answer = .error ⟨.invalidArgument, message⟩

/-- An answer that tells what a store did: it succeeded, and the answer is made of the value; it
failed, and the code says whether an id was taken and the text how the store puts it; or it aborted,
and the answer is the failure of a task. -/
inductive Tells {α β : Type} (doing task : String) (value : α → β) :
    Outcome α → Except Status β → Prop where
  | returned (v : α) : Tells doing task value (.returned v) (.ok (value v))
  | failed (error : StoreError) :
      Tells doing task value (.failed error)
        (.error ⟨if error.isAlreadyExists then .alreadyExists else .internal,
          doing ++ ": " ++ error.message⟩)
  | aborted (reason rest : String) :
      Tells doing task value (.aborted reason)
        (.error ⟨.internal, task ++ " task failed: " ++ rest⟩)

/-- Whether a status has one of the two codes that what a store did is told with. -/
def FromStore (status : Status) : Prop :=
  status.code = .alreadyExists ∨ status.code = .internal

/-- The codes of failures that a store can have. -/
theorem fromStore_status (error : StoreError) (doing : String) :
    FromStore (error.status doing) := by
  cases error with
  | alreadyExists _ => exact Or.inl rfl
  | emptyId => exact Or.inr rfl
  | lockPoisoned _ => exact Or.inr rfl
  | cancelled _ => exact Or.inr rfl

section

variable {α β : Type} {doing task : String} {value : α → β}

theorem Tells.fromStore {outcome : Outcome α} {status : Status}
    (h : Tells doing task value outcome (.error status)) : FromStore status := by
  cases h with
  | failed error =>
    unfold FromStore
    split
    · exact Or.inl rfl
    · exact Or.inr rfl
  | aborted reason rest => exact Or.inr rfl

theorem tells_status (error : StoreError) :
    Tells doing task value (.failed error) (.error (error.status doing)) := by
  have hcode : error.statusCode = if error.isAlreadyExists then .alreadyExists else .internal := by
    cases error <;> rfl
  have hstatus : error.status doing =
      ⟨if error.isAlreadyExists then .alreadyExists else .internal,
        doing ++ ": " ++ error.message⟩ := by
    rw [← hcode]
    rfl
  rw [hstatus]
  exact .failed error

theorem tells_abortedStatus (reason : String) :
    Tells doing task value (.aborted reason) (.error (abortedStatus task reason)) := by
  -- the text of the status has one literal where the beginning that is promised ends
  have hsplit : " task failed: task N panicked with message " =
      " task failed: " ++ "task N panicked with message " := by
    rfl
  have hstatus : abortedStatus task reason =
      ⟨.internal, task ++ " task failed: " ++
        ("task N panicked with message " ++ quoted reason)⟩ := by
    rw [← String.append_assoc, @String.append_assoc task, ← hsplit]
    rfl
  rw [hstatus]
  exact .aborted reason _

end

/-! ## The calls -/

section

variable (store : Store σ)

/-- A request without a record that is due is declined and leaves the store as it is. Any other is
answered and changes the store as the saving of the record does. -/
theorem create_due (entropy : Entropy) (request : CreateRequest) (s : σ) :
    match dueRecord entropy request with
    | none =>
      (∃ status, Declines entropy request status ∧
        (create store entropy request s).1.answer = .error status) ∧
      (create store entropy request s).2 = s
    | some record =>
      (create store entropy request s).1.answer = (saveResolved store record s).1.answer ∧
        (create store entropy request s).2 = (saveResolved store record s).2 := by
  rcases create_cases store entropy request s with
    ⟨status, hdeclines, hanswer, hstate⟩ |
      ⟨laptop, id, hlaptop, _, hresolved, hanswer, hstate⟩
  · rw [dueRecord_of_declines hdeclines]
    exact ⟨⟨status, hdeclines, hanswer⟩, hstate⟩
  · -- an id that was given is put in the place of itself
    have hdue : dueRecord entropy request = some { laptop with id } := by
      rcases hresolved with ⟨hempty, bytes, rfl, rfl⟩ | ⟨hgiven, hparse, rfl⟩
      · simp [dueRecord, hlaptop, hempty, Except.toOption]
      · simp [dueRecord, hlaptop, hgiven, hparse]
    rw [hdue]
    exact ⟨hanswer, hstate⟩

/-- Storing a record asks the store once and tells what it did. -/
theorem saveResolved_tells (laptop : Laptop) (s : σ) :
    Tells "cannot save laptop to the store" "create-laptop"
        (fun _ => ({ id := laptop.id } : CreateResponse)) (store.save laptop s).1
        (saveResolved store laptop s).1.answer ∧
      (saveResolved store laptop s).2 = (store.save laptop s).2 := by
  rcases hsave : store.save laptop s with ⟨outcome, s'⟩
  cases outcome with
  | returned v =>
    simp only [saveResolved, hsave]
    exact ⟨.returned v, trivial⟩
  | failed error =>
    simp only [saveResolved, hsave]
    exact ⟨tells_status error, trivial⟩
  | aborted reason =>
    simp only [saveResolved, hsave]
    exact ⟨tells_abortedStatus reason, trivial⟩

/-- Looking up without an id is refused and leaves the store as it is. Any other lookup asks the
store for the id as it is written and tells what it did. -/
theorem find_due (request : FindRequest) (s : σ) :
    if request.id = "" then
      Refuses (find store request s).1.answer ∧ (find store request s).2 = s
    else
      Tells "cannot find laptop in the store" "find-laptop" FindResponse.mk
          (store.find request.id s).1 (find store request s).1.answer ∧
        (find store request s).2 = (store.find request.id s).2 := by
  by_cases hid : request.id = ""
  · simp only [find, hid, if_true]
    exact ⟨⟨_, rfl⟩, trivial⟩
  · rcases hfind : store.find request.id s with ⟨outcome, s'⟩
    cases outcome with
    | returned v =>
      simp only [find, hid, if_false, hfind]
      exact ⟨.returned v, trivial⟩
    | failed error =>
      simp only [find, hid, if_false, hfind]
      exact ⟨tells_status error, trivial⟩
    | aborted reason =>
      simp only [find, hid, if_false, hfind]
      exact ⟨tells_abortedStatus reason, trivial⟩

/-! ## What is noted -/

theorem saveResolved_noting (laptop : Laptop) (s : σ) (asked : List StoreCall) :
    saveResolved store.noting laptop (s, asked) =
      ((saveResolved store laptop s).1, (saveResolved store laptop s).2,
        asked ++ [.save laptop]) := by
  rcases hsave : store.save laptop s with ⟨outcome, s'⟩
  cases outcome <;> simp [saveResolved, Store.noting, hsave]

/-- A call of a store that notes what it is asked for is the call of the store, and what is noted is
what is due. -/
theorem perform_noting (buffer : Nat) (call : Call) (s : σ) (asked : List StoreCall) :
    call.perform store.noting buffer (s, asked) =
      ((call.perform store buffer s).1, (call.perform store buffer s).2,
        asked ++ call.due buffer) := by
  cases call with
  | create entropy request =>
    cases hlaptop : request.laptop with
    | none => simp [Call.perform, Call.due, create, dueRecord, hlaptop]
    | some laptop =>
      have hdue := dueRecord_eq hlaptop entropy
      cases hresolved : (resolveId laptop.id entropy).answer with
      | error status =>
        simp [Call.perform, Call.due, create, hdue, hlaptop, hresolved, Except.toOption]
      | ok id =>
        simp [Call.perform, Call.due, create, hdue, hlaptop, hresolved, Except.toOption,
          saveResolved_noting]
  | find request =>
    by_cases hid : request.id = ""
    · simp [Call.perform, Call.due, find, hid]
    · rcases hfind : store.find request.id s with ⟨outcome, s'⟩
      cases outcome <;> simp [Call.perform, Call.due, find, hid, Store.noting, hfind]
  | search request =>
    by_cases hadmitted : Stream.capacityFor buffer ≤ Stream.maxCapacity
    · simp [Call.perform, Call.due, search, hadmitted, Store.noting]
    · simp [Call.perform, Call.due, search, hadmitted]

/-- Over a run the store is asked for what is due, call by call. -/
theorem runAll_noting (buffer : Nat) (calls : List Call) (s : σ) (asked : List StoreCall) :
    runAll (Call.perform store.noting buffer) calls (s, asked) =
      ((runAll (Call.perform store buffer) calls s).1,
        (runAll (Call.perform store buffer) calls s).2,
        asked ++ calls.flatMap (Call.due buffer)) := by
  -- the calls noted so far grow from step to step, so they are general in the induction
  induction calls generalizing s asked with
  | nil => simp [runAll]
  | cons call calls ih => simp [runAll, perform_noting, ih]

end

/-! ## Statuses -/

/-- Whether a client can be told a status by a reply: as its answer, or among what it takes out of
its stream, in whatever order scan and client move. -/
def Reply.MayTell : Reply → Status → Prop
  | .created handled, status => handled.answer = .error status
  | .found handled, status => handled.answer = .error status
  | .streaming _ none, _ => False
  | .streaming _ (some stream), status =>
    ∃ moves later, stream.after? moves = some later ∧ .failure status ∈ later.received

/-- A search ends with a failure of its store, if it tells of one. -/
theorem fromStore_of_mem_closing {outcome : Outcome Unit} {status : Status}
    (h : .failure status ∈ Scan.closing outcome) : FromStore status := by
  unfold Scan.closing at h
  split at h
  · cases h
  · rename_i error _
    obtain rfl : status = error.status "cannot search laptops" := by simpa using h
    exact fromStore_status error _
  · cases h
  · cases h

/-- The failures in a stream are failures of its store. -/
theorem fromStore_of_received {buffer : Nat} {scan : Scan} {moves : List Move} {later : Stream}
    (hmoves : (Stream.start buffer scan).after? moves = some later) {status : Status}
    (h : .failure status ∈ later.received) : FromStore status := by
  -- what a client has received is among the items of the scan, and a laptop is no failure
  have hitem : .failure status ∈ scan.items :=
    (Stream.delivers_after hmoves).received_append_channel.subset (List.mem_append_left _ h)
  have hclosing : .failure status ∈ Scan.closing scan.ending := by
    simpa [Scan.items] using hitem
  exact fromStore_of_mem_closing hclosing

/-- Why no id can be made for the record of a call that comes without one. -/
def Call.unreadCause? : Call → Option String
  | .create entropy request => Service.unreadCause? entropy request
  | .find _ | .search _ => none

/-- What a client can be told by a call that may ask the store so often: that its argument is
invalid or no id can be made, if the store is not asked; what the store did, if it is asked once. -/
inductive MayBeTold (buffer : Nat) (call : Call) (status : Status) : Prop where
  | invalid (hcode : status.code = .invalidArgument) (hdue : call.due buffer = [])
  | unread {cause : String} (hcause : call.unreadCause? = some cause)
      (hstatus : status = ⟨.internal, "cannot generate a new laptop ID: " ++ cause⟩)
      (hdue : call.due buffer = [])
  | fromStore (hcode : FromStore status) (hdue : (call.due buffer).length = 1)

/-- A client is told that its argument is invalid if the store was not asked; once the store was
asked, every status is the store's doing. -/
theorem perform_mayTell (store : Store σ) (buffer : Nat) (call : Call) (s : σ) {status : Status}
    (h : (call.perform store buffer s).1.MayTell status) : MayBeTold buffer call status := by
  cases call with
  | create entropy request =>
    have htold : (create store entropy request s).1.answer = .error status := h
    have hdue := create_due store entropy request s
    cases hrecord : dueRecord entropy request with
    | none =>
      simp only [hrecord] at hdue
      obtain ⟨⟨status', hdeclines, hanswer⟩, _⟩ := hdue
      have hnone : (Call.create entropy request).due buffer = [] := by simp [Call.due, hrecord]
      cases htold.symm.trans hanswer
      cases hdeclines with
      | missing _ => exact .invalid rfl hnone
      | malformed _ _ _ _ => exact .invalid rfl hnone
      | unread hcause => exact .unread hcause rfl hnone
    | some record =>
      simp only [hrecord] at hdue
      have htells := (saveResolved_tells store record s).1
      rw [← hdue.1, htold] at htells
      exact .fromStore htells.fromStore (by simp [Call.due, hrecord])
  | find request =>
    have htold : (find store request s).1.answer = .error status := h
    have hdue := find_due store request s
    by_cases hid : request.id = ""
    · rw [if_pos hid] at hdue
      obtain ⟨⟨message, hanswer⟩, _⟩ := hdue
      cases htold.symm.trans hanswer
      exact .invalid rfl (by simp [Call.due, hid])
    · rw [if_neg hid, htold] at hdue
      exact .fromStore hdue.1.fromStore (by simp [Call.due, hid])
  | search request =>
    by_cases hadmitted : Stream.capacityFor buffer ≤ Stream.maxCapacity
    · simp only [Call.perform, search, hadmitted, if_true] at h
      obtain ⟨moves, later, hmoves, hreceived⟩ := h
      exact .fromStore (fromStore_of_received hmoves hreceived) (by simp [Call.due, hadmitted])
    · -- without a stream nothing is told
      simp only [Call.perform, search, hadmitted, if_false] at h
      cases h

/-- A call is checked first, asks the store once, and tells what the store did. For every store that
may succeed, fail or abort at each call, in every state of it and with any calls noted before:

* A create request without a record, or with an id that is neither empty nor a UUID, is refused; one
  that needs an id when there are no random bytes fails, and the answer says why. In both cases the
  store is not asked. Any other asks for its record to be saved, in which at most an empty id is
  replaced, and for nothing else; the answer is the id of that record if it was saved.
* A find request without an id is refused, and the store is not asked. Any other asks for the id as
  it is written, and for nothing else; what was found is the answer.
* What a run asks the store for is what is due for its calls, one after another. A client is told
  that its argument is invalid, or that no id can be made, only by calls that asked for nothing; all
  other statuses are told by calls that asked once, and say that an id is taken or that there was an
  internal failure. -/
theorem calls_ask_once (store : Store σ) (buffer : Nat) :
    (∀ entropy request s asked,
      match dueRecord entropy request with
      | none =>
        (∃ status, Declines entropy request status ∧
          (create store.noting entropy request (s, asked)).1.answer = .error status) ∧
        (create store.noting entropy request (s, asked)).2 = (s, asked)
      | some record =>
        Tells "cannot save laptop to the store" "create-laptop"
            (fun _ => ({ id := record.id } : CreateResponse)) (store.save record s).1
            (create store.noting entropy request (s, asked)).1.answer ∧
          (create store.noting entropy request (s, asked)).2 =
            ((store.save record s).2, asked ++ [.save record])) ∧
    (∀ request s asked,
      if request.id = "" then
        Refuses (find store.noting request (s, asked)).1.answer ∧
          (find store.noting request (s, asked)).2 = (s, asked)
      else
        Tells "cannot find laptop in the store" "find-laptop" FindResponse.mk
            (store.find request.id s).1 (find store.noting request (s, asked)).1.answer ∧
          (find store.noting request (s, asked)).2 =
            ((store.find request.id s).2, asked ++ [.find request.id])) ∧
    ∀ calls s asked,
      let noted := runAll (Call.perform store.noting buffer) calls (s, asked)
      let plain := runAll (Call.perform store buffer) calls s
      noted = (plain.1, plain.2, asked ++ calls.flatMap (Call.due buffer)) ∧
      ∀ call reply, (call, reply) ∈ plain.1 → ∀ status, reply.MayTell status →
        MayBeTold buffer call status := by
  refine ⟨?_, ?_, ?_⟩
  · intro entropy request s asked
    have hdue := create_due store.noting entropy request (s, asked)
    cases hrecord : dueRecord entropy request with
    | none => simpa only [hrecord] using hdue
    | some record =>
      simp only [hrecord, saveResolved_noting] at hdue
      obtain ⟨htells, hstate⟩ := saveResolved_tells store record s
      rw [← hdue.1] at htells
      rw [hstate] at hdue
      exact ⟨htells, hdue.2⟩
  · intro request s asked
    exact find_due store.noting request (s, asked)
  · intro calls s asked
    refine ⟨runAll_noting store buffer calls s asked, ?_⟩
    intro call reply hmem status htold
    obtain ⟨s', rfl⟩ := exists_of_mem_runAll _ hmem
    exact perform_mayTell store buffer call s' htold

/-- A store that refuses the first record, aborts at the second, and fails in a search. It is not
asked for a record with an id that is no UUID, nor for one without an id when there are no random
bytes. -/
theorem calls_ask_once_failing :
    let store : Store Nat := {
      save := fun _ saves =>
        (if saves = 0 then .failed (.alreadyExists "taken") else .aborted "gone", saves + 1)
      find := fun _ saves => (.returned none, saves)
      search := fun _ saves => (⟨[], .failed (.lockPoisoned "search")⟩, saves) }
    let entropy : Uuid := ⟨List.replicate 16 0, rfl⟩
    let record : Laptop := { id := entropy.version4.text }
    let creates : List Call :=
      [.create entropy { laptop := some { id := "no UUID" } },
        .create (.error "exhausted") { laptop := some {} },
        .create entropy { laptop := some {} }, .create entropy { laptop := some {} }]
    (runAll (Call.perform store.noting 0) (creates ++ [.search {}]) (0, [])).2.2 =
        [.save record, .save record, .search {}] ∧
      ∃ reply status,
        (.search {}, reply) ∈ (runAll (Call.perform store 0) (creates ++ [.search {}]) 0).1 ∧
        reply.MayTell status ∧ (status.code = .alreadyExists ∨ status.code = .internal) := by
  intro store entropy record creates
  obtain ⟨_, _, hrun⟩ := calls_ask_once store 0
  obtain ⟨hnoted, hstatuses⟩ := hrun (creates ++ [.search {}]) 0 []
  have hdue : (creates ++ [Call.search {}]).flatMap (Call.due 0) =
      [.save record, .save record, .search {}] := by
    decide +kernel +zetaReduce
  have hmem := List.mem_of_getElem? (runAll_at (Call.perform store 0) creates [] (.search {}) 0)
  -- the scan ends at once and reports its failure, which the client takes
  have htold : Reply.MayTell
      (Call.perform store 0 (.search {}) (runAll (Call.perform store 0) creates 0).2).1
      (StoreError.status (.lockPoisoned "search") "cannot search laptops") :=
    ⟨[.advance, .advance, .receive], _, rfl, List.mem_cons_self ..⟩
  refine ⟨?_, _, _, hmem, htold, ?_⟩
  · rw [hnoted, hdue]
    rfl
  · cases hstatuses _ _ hmem _ htold with
    | invalid hcode _ => cases hcode
    | unread hcause _ _ => cases hcause
    | fromStore hcode _ => exact hcode

/-- A record comes without an id when there are no random bytes. Its request has a record, and no id
that could be wrong, but the store is not asked to save one. -/
theorem unread_entropy_asks_nothing :
    let store : Store Unit := {
      save := fun _ _ => (.returned (), ())
      find := fun _ _ => (.returned none, ())
      search := fun _ _ => (⟨[], .returned ()⟩, ()) }
    let entropy : Entropy := .error "entropy exhausted"
    let request : CreateRequest := { laptop := some {} }
    ¬(request.laptop = none ∨
        ∃ laptop, request.laptop = some laptop ∧ laptop.id ≠ "" ∧ ¬(Uuid.parse laptop.id).isOk) ∧
      (create store.noting entropy request ((), [])).1.answer =
        .error ⟨.internal, "cannot generate a new laptop ID: entropy exhausted"⟩ ∧
      ¬∃ record, (create store.noting entropy request ((), [])).2.2 = [.save record] := by
  intro store entropy request
  have hasked : (create store.noting entropy request ((), [])).2.2 = [] := rfl
  refine ⟨?_, by decide +kernel +zetaReduce, ?_⟩
  · rintro (hnone | ⟨laptop, hlaptop, hid, _⟩)
    · cases hnone
    · cases hlaptop
      exact hid rfl
  · rintro ⟨record, hsave⟩
    rw [hasked] at hsave
    cases hsave

end Service

end LaptopCatalogue
