import LaptopCatalogue.Proofs.Service.Answers

/-!
# The log as an audit

What the calls that create and find laptops log can be held against what the store answered. A
record is logged as saved if the store saved it, and as refused if the store refused it; nothing
that the store did not do is logged, and nothing is left out.

* `StoreAnswer.event?` is the event that tells of an answer of the store.
* `Service.events_perform` is the step: a call logs that it came in, what the store answered, and
  that it is over. `Service.under_log` is the run, under one heading.
* `Service.log_audits_store` is the statement about every store and all runs.
-/

namespace LaptopCatalogue

/-- The event that tells of an answer of the store. What aborted is not told of, nor is a lookup
that failed. -/
def StoreAnswer.event? : StoreAnswer → Option Event
  | .saved laptop (.returned ()) => some (.saved laptop.id)
  | .saved laptop (.failed error) => some (.saveFailed laptop.id error)
  | .found id (.returned laptop) => some (.lookedUp id laptop.isSome)
  | _ => none

/-- The id of a record that was refused, and why. -/
def StoreAnswer.refusal? : StoreAnswer → Option (String × StoreError)
  | .saved laptop (.failed error) => some (laptop.id, error)
  | _ => none

/-- The id that was looked up without failure, and whether there was a record. -/
def StoreAnswer.lookup? : StoreAnswer → Option (String × Bool)
  | .found id (.returned laptop) => some (id, laptop.isSome)
  | _ => none

namespace StoreAnswer

/-! ## The events of an answer, by heading -/

theorem under_saved (answer : StoreAnswer) :
    Event.under "saved laptop" answer.event?.toList =
      answer.savedId?.toList.map fun id => (.info, [("id", id)]) := by
  unfold event? savedId?
  split <;> simp [Event.under, Event.heading, Event.level, Event.fields]

theorem under_cannotSave (answer : StoreAnswer) :
    Event.under "cannot save laptop" answer.event?.toList =
      answer.refusal?.toList.map fun (id, error) =>
        (.warn, [("id", id), ("code", error.code)]) := by
  unfold event? refusal?
  split <;> simp [Event.under, Event.heading, Event.level, Event.fields]

theorem under_find (answer : StoreAnswer) :
    Event.under "find laptop" answer.event?.toList =
      answer.lookup?.toList.map fun (id, hit) =>
        (.debug, [("id", id), ("found", toString hit)]) := by
  unfold event? lookup?
  split <;> simp [Event.under, Event.heading, Event.level, Event.fields]

end StoreAnswer

namespace Service

variable {σ : Type}

/-! ## The events of a call -/

/-- What a call logs. Of a search this is that it came in; its scan has a log of its own. -/
def Reply.events : Reply → List Event
  | .created handled => handled.events
  | .found handled => handled.events
  | .streaming event _ => [event]

/-- What a call logs when it comes in. -/
def Call.received : Call → List Event
  | .create _ request => request.laptop.toList.map fun laptop => .createReceived laptop.id
  | .find _ => []
  | .search request => [.searchReceived (request.filter.getD {})]

/-- What a call logs before the store is asked. -/
def Call.arrival (call : Call) : List Event :=
  call.received ++ call.unreadCause?.toList.map .entropyUnread

/-- The name under which a call is timed. A search is not; its scan is. -/
def Call.operation? : Call → Option String
  | .create .. => some createOperation
  | .find _ => some findOperation
  | .search _ => none

/-- To resolve an id logs nothing, unless there are no random bytes for it. -/
theorem resolveId_events {request : CreateRequest} {laptop : Laptop}
    (h : request.laptop = some laptop) (entropy : Entropy) :
    (resolveId laptop.id entropy).events =
      (unreadCause? entropy request).toList.map .entropyUnread := by
  rcases resolveId_cases laptop.id entropy with
    ⟨hid, bytes, rfl, hresolved⟩ | ⟨hid, cause, rfl, hresolved⟩ |
      ⟨hid, _, hresolved⟩ | ⟨hid, _, reason, hresolved⟩
  · rw [hresolved]
    simp [unreadCause?, h]
  · rw [hresolved]
    simp [unreadCause?, h, hid]
  · rw [hresolved]
    cases entropy <;> simp [unreadCause?, h, hid]
  · rw [hresolved]
    cases entropy <;> simp [unreadCause?, h, hid]

section

variable (store : Store σ) (buffer : Nat)

/-- A call logs that it came in, what the store answered, and that it is over. -/
theorem events_perform (call : Call) (s : σ) :
    (call.perform store buffer s).1.events =
      call.arrival ++ (call.answers store buffer s).filterMap StoreAnswer.event? ++
        call.operation?.toList.map .completed := by
  unfold Call.arrival
  cases call with
  | create entropy request =>
    cases hlaptop : request.laptop with
    | none =>
      simp [Call.perform, Reply.events, Call.received, Call.unreadCause?, Call.operation?,
        Call.answers, create, dueRecord, unreadCause?, hlaptop]
    | some laptop =>
      have hdue := dueRecord_eq hlaptop entropy
      have hevents := resolveId_events hlaptop entropy
      cases hresolved : (resolveId laptop.id entropy).answer with
      | error status =>
        simp [Call.perform, Reply.events, Call.received, Call.unreadCause?, Call.operation?,
          Call.answers, create, hlaptop, hdue, hevents, hresolved, Except.toOption]
      | ok id =>
        -- only here is the store asked, and each of its answers leaves another trace
        rcases hsave : store.save { laptop with id } s with ⟨outcome, s'⟩
        cases outcome <;>
          simp [Call.perform, Reply.events, Call.received, Call.unreadCause?, Call.operation?,
            Call.answers, create, hlaptop, hdue, hevents, hresolved, Except.toOption,
            saveResolved, hsave, StoreAnswer.event?]
  | find request =>
    by_cases hid : request.id = ""
    · simp [Call.perform, Reply.events, Call.received, Call.unreadCause?, Call.operation?,
        Call.answers, find, hid]
    · rcases hfind : store.find request.id s with ⟨outcome, s'⟩
      cases outcome <;>
        simp [Call.perform, Reply.events, Call.received, Call.unreadCause?, Call.operation?,
          Call.answers, find, hid, hfind, StoreAnswer.event?]
  | search request =>
    by_cases hadmitted : Stream.capacityFor buffer ≤ Stream.maxCapacity <;>
      simp [Call.perform, Reply.events, Call.received, Call.unreadCause?, Call.operation?,
        Call.answers, search, hadmitted, StoreAnswer.event?]

/-- The headings under which it is logged that a call has come in, and that no id can be made. -/
def arrivalHeadings : List String :=
  ["receive a create-laptop request", "cannot read random bytes for a laptop ID",
    "receive a search-laptop request"]

/-- The headings under which it is logged what the store answered. -/
def answerHeadings : List String := ["saved laptop", "cannot save laptop", "find laptop"]

theorem heading_mem_of_mem_arrival {call : Call} {event : Event} (h : event ∈ call.arrival) :
    event.heading ∈ arrivalHeadings := by
  rcases List.mem_append.mp h with hreceived | hunread
  · cases call with
    | create entropy request =>
      obtain ⟨laptop, _, rfl⟩ := List.mem_map.mp hreceived
      simp [arrivalHeadings, Event.heading]
    | find request => cases hreceived
    | search request =>
      obtain rfl := List.mem_singleton.mp hreceived
      simp [arrivalHeadings, Event.heading]
  · obtain ⟨cause, _, rfl⟩ := List.mem_map.mp hunread
    simp [arrivalHeadings, Event.heading]

theorem heading_mem_of_event? {answer : StoreAnswer} {event : Event}
    (h : answer.event? = some event) : event.heading ∈ answerHeadings := by
  unfold StoreAnswer.event? at h
  split at h <;> cases h <;> simp [answerHeadings, Event.heading]

theorem heading_ne_of_mem_answers {heading : String} (h : heading ∉ answerHeadings)
    {answers : List StoreAnswer} {event : Event}
    (hmem : event ∈ answers.filterMap StoreAnswer.event?) : event.heading ≠ heading := by
  rintro rfl
  obtain ⟨answer, _, hevent⟩ := List.mem_filterMap.mp hmem
  exact h (heading_mem_of_event? hevent)

/-- What a call has under the heading of an answer is what it tells of the store's answers. -/
theorem under_events_perform {heading : String} (h : heading ∈ answerHeadings) (call : Call)
    (s : σ) :
    Event.under heading (call.perform store buffer s).1.events =
      (call.answers store buffer s).flatMap fun answer =>
        Event.under heading answer.event?.toList := by
  -- neither the arrival nor the end of the call is logged under such a heading
  have harrival : Event.under heading call.arrival = [] := by
    rw [Event.under_eq_nil_iff]
    rintro event hmem rfl
    have hapart : ∀ heading ∈ arrivalHeadings, heading ∉ answerHeadings := by decide
    exact hapart _ (heading_mem_of_mem_arrival hmem) h
  have hend : Event.under heading (call.operation?.toList.map .completed) = [] := by
    rw [Event.under_eq_nil_iff]
    rintro event hmem rfl
    obtain ⟨operation, _, rfl⟩ := List.mem_map.mp hmem
    have hother : "Operation completed" ∉ answerHeadings := by decide
    exact hother h
  rw [events_perform, Event.under_append, Event.under_append, harrival, hend, List.nil_append,
    List.append_nil, List.filterMap_eq_flatMap_toList, Event.under_flatMap]

/-- The last event of a call that is timed says that it is over, and no other does. -/
theorem completed_last {call : Call} {operation : String}
    (h : call.operation? = some operation) (s : σ) :
    ∃ front, (call.perform store buffer s).1.events = front ++ [.completed operation] ∧
      Event.under "Operation completed" front = [] := by
  refine ⟨call.arrival ++ (call.answers store buffer s).filterMap StoreAnswer.event?, ?_, ?_⟩
  · rw [events_perform, h]
    rfl
  · rw [Event.under_eq_nil_iff]
    intro event hmem
    rcases List.mem_append.mp hmem with hfirst | hlater
    · intro hcompleted
      have hother : "Operation completed" ∉ arrivalHeadings := by decide
      exact hother (hcompleted ▸ heading_mem_of_mem_arrival hfirst)
    · exact heading_ne_of_mem_answers (by decide) hlater

/-- Of random bytes a call logs why it has none, if it needs them. -/
theorem unread_events_perform (call : Call) (s : σ) :
    (call.perform store buffer s).1.events.filter
        (fun event => event.heading = "cannot read random bytes for a laptop ID") =
      call.unreadCause?.toList.map .entropyUnread := by
  -- neither what came in nor what the store answered is logged under this heading
  have hreceived : call.received.filter
      (fun event => event.heading = "cannot read random bytes for a laptop ID") = [] := by
    cases call <;> simp [Call.received, Event.heading]
  have hanswers : ((call.answers store buffer s).filterMap StoreAnswer.event?).filter
      (fun event => event.heading = "cannot read random bytes for a laptop ID") = [] := by
    rw [List.filter_eq_nil_iff]
    intro event hmem hunread
    exact heading_ne_of_mem_answers (by decide) hmem (of_decide_eq_true hunread)
  rw [events_perform, Call.arrival]
  simp only [List.filter_append, hreceived, hanswers, List.nil_append, List.append_nil]
  cases call.unreadCause? <;> cases call.operation? <;> simp [Event.heading]

/-- An event of random bytes as it is written. -/
theorem line_entropyUnread (cause : String) :
    (Event.entropyUnread cause).line =
      (.warn, "cannot read random bytes for a laptop ID: " ++ cause, []) := by
  have hsplit : "cannot read random bytes for a laptop ID: " =
      "cannot read random bytes for a laptop ID" ++ ": " := by rfl
  rw [hsplit]
  rfl

/-! ## Runs -/

/-- Of random bytes a run logs, call by call, why there were none. -/
theorem unread_log (calls : List Call) (s : σ) :
    ((runAll (Call.perform store buffer) calls s).1.flatMap fun entry => entry.2.events).filter
        (fun event => event.heading = "cannot read random bytes for a laptop ID") =
      (calls.filterMap Call.unreadCause?).map .entropyUnread := by
  induction calls generalizing s with
  | nil => rfl
  | cons call calls ih =>
    simp only [runAll, List.flatMap_cons, List.filter_append, unread_events_perform, ih]
    cases hcause : call.unreadCause? <;> simp [hcause]

/-- What a run has under the heading of an answer is a view of the store's answers, if what is
logged of each of them is. -/
theorem under_log {α : Type} {heading : String} (h : heading ∈ answerHeadings)
    {told : StoreAnswer → Option α} {shown : α → Level × List (String × String)}
    (hshown : ∀ answer : StoreAnswer,
      Event.under heading answer.event?.toList = (told answer).toList.map shown)
    (calls : List Call) (s : σ) :
    Event.under heading
        ((runAll (Call.perform store buffer) calls s).1.flatMap fun entry => entry.2.events) =
      ((answersDuring store buffer calls s).filterMap told).map shown := by
  rw [Event.under_flatMap, List.filterMap_eq_flatMap_toList, List.map_flatMap,
    flatMap_runAll store buffer (under_events_perform store buffer h) calls s]
  exact List.flatMap_congr fun answer _ => hshown answer

/-- The lookups of a run that its replies say were answered: the id, and whether there was a
record. -/
def lookups (transcript : List (Call × Reply)) : List (String × Bool) :=
  transcript.filterMap fun
    | (.find request, .found handled) =>
      handled.answer.toOption.map fun response => (request.id, response.laptop.isSome)
    | _ => none

/-- What the replies of a run say was looked up is what the store looked up, in order. -/
theorem lookups_runAll (calls : List Call) (s : σ) :
    lookups (runAll (Call.perform store buffer) calls s).1 =
      (answersDuring store buffer calls s).filterMap StoreAnswer.lookup? := by
  unfold lookups
  rw [List.filterMap_eq_flatMap_toList, List.filterMap_eq_flatMap_toList]
  apply flatMap_runAll
  intro call s
  cases call with
  | create entropy request =>
    cases hrecord : dueRecord entropy request <;>
      simp [Call.answers, hrecord, StoreAnswer.lookup?]
  | find request =>
    by_cases hid : request.id = ""
    · simp [Call.perform, Call.answers, find, hid, Except.toOption]
    · rcases hfind : store.find request.id s with ⟨outcome, s'⟩
      cases outcome <;>
        simp [Call.perform, Call.answers, find, hid, hfind, StoreAnswer.lookup?, Except.toOption]
  | search request =>
    by_cases hadmitted : Stream.capacityFor buffer ≤ Stream.maxCapacity <;>
      simp [Call.answers, hadmitted, StoreAnswer.lookup?]

/-- A call that asks the store for nothing tells nothing of it. -/
theorem under_events_of_not_asked {heading : String} (h : heading ∈ answerHeadings) {call : Call}
    (hdue : call.due buffer = []) (s : σ) :
    Event.under heading (call.perform store buffer s).1.events = [] := by
  have hanswers : call.answers store buffer s = [] := by
    rw [← List.map_eq_nil_iff, map_call_answers, hdue]
  rw [under_events_perform store buffer h, hanswers]
  rfl

/-- The log is an audit of what the store answered. For every store that may succeed, fail or abort
at each call, and every run of calls:

* The records that are logged as saved are those that the replies say were created, in the same
  order, and these are the records that the store saved.
* A warning that a record cannot be saved is logged for each record that the store refused, with the
  code of the failure, and for no other.
* A lookup is logged for each find that was answered, with whether there was a record; these are the
  lookups in which the store did not fail or abort.
* A call for which the store is not asked, because its request is refused or no id can be made,
  logs none of these. A warning that there are no random bytes is logged, with the reason, for each
  create that needs an id when there are none, and for no other call.
* The last event of each create and find, and no other, says that its operation is over. -/
theorem log_audits_store (calls : List Call) (s : σ) :
    let run := runAll (Call.perform store buffer) calls s
    let recorded := runAll (Call.perform store.recording buffer) calls (s, [])
    let log := run.1.flatMap fun entry => entry.2.events
    recorded.1 = run.1 ∧ recorded.2.1 = run.2 ∧
    Event.under "saved laptop" log =
      ((createdIds run.1).map fun id => (.info, [("id", id)])) ∧
    createdIds run.1 = recorded.2.2.filterMap StoreAnswer.savedId? ∧
    Event.under "cannot save laptop" log =
      ((recorded.2.2.filterMap StoreAnswer.refusal?).map fun (id, error) =>
        (.warn, [("id", id), ("code", error.code)])) ∧
    Event.under "find laptop" log =
      ((lookups run.1).map fun (id, hit) =>
        (.debug, [("id", id), ("found", toString hit)])) ∧
    lookups run.1 = recorded.2.2.filterMap StoreAnswer.lookup? ∧
    (log.filter fun event => event.heading = "cannot read random bytes for a laptop ID").map
        Event.line =
      ((calls.filterMap Call.unreadCause?).map fun cause =>
        (.warn, "cannot read random bytes for a laptop ID: " ++ cause, [])) ∧
    ∀ call reply, (call, reply) ∈ run.1 →
      ((call.due buffer = [] ∨ ∃ status, reply.MayTell status ∧ status.code = .invalidArgument) →
        ∀ heading ∈ answerHeadings, Event.under heading reply.events = []) ∧
      ∀ operation, call.operation? = some operation →
        ∃ front, reply.events = front ++ [.completed operation] ∧
          Event.under "Operation completed" front = [] := by
  intro run recorded log
  have hrecorded : recorded = (run.1, run.2, answersDuring store buffer calls s) :=
    runAll_recording store buffer calls s []
  rw [hrecorded]
  refine ⟨rfl, rfl, ?_, createdIds_runAll store buffer calls s, ?_, ?_,
    lookups_runAll store buffer calls s, ?_, ?_⟩
  · rw [createdIds_runAll]
    apply under_log store buffer (by decide)
    intro answer
    exact answer.under_saved
  · apply under_log store buffer (by decide)
    intro answer
    exact answer.under_cannotSave
  · rw [lookups_runAll]
    apply under_log store buffer (by decide)
    intro answer
    exact answer.under_find
  · rw [unread_log, List.map_map]
    exact List.map_congr_left fun cause _ => line_entropyUnread cause
  · intro call reply hmem
    obtain ⟨s', rfl⟩ := exists_of_mem_runAll _ hmem
    refine ⟨?_, fun operation h => completed_last store buffer h s'⟩
    rintro hrefused heading hheading
    apply under_events_of_not_asked store buffer hheading
    -- a status that says that the argument is invalid is told only where the store was not asked
    rcases hrefused with hdue | ⟨status, htold, hcode⟩
    · exact hdue
    · cases perform_mayTell store buffer call s' htold with
      | invalid _ hdue => exact hdue
      | unread _ _ hdue => exact hdue
      | fromStore hstore _ => rcases hstore with h | h <;> cases hcode.symm.trans h

end

/-- A store saves a record, refuses the next and aborts at the third. A record whose id is no UUID
does not reach it, nor one for which there are no random bytes. -/
theorem log_audits_store_failing :
    let store : Store Nat := {
      save := fun record saves =>
        (if saves = 0 then .returned () else if saves = 1 then .failed (.alreadyExists record.id)
          else .aborted "gone", saves + 1)
      find := fun _ saves => (.returned none, saves)
      search := fun _ saves => (⟨[], .returned ()⟩, saves) }
    let entropy : Uuid := ⟨List.replicate 16 0, rfl⟩
    let id := entropy.version4.text
    let before : List Call :=
      [.create entropy { laptop := some {} }, .create entropy { laptop := some {} },
        .create (.error "exhausted") { laptop := some {} }, .create entropy { laptop := some {} },
        .find { id := "a" }]
    let refused : Call := .create entropy { laptop := some { id := "no UUID" } }
    let run := runAll (Call.perform store 0) (before ++ refused :: []) 0
    let log := run.1.flatMap fun entry => entry.2.events
    Event.under "saved laptop" log = [(.info, [("id", id)])] ∧
    Event.under "cannot save laptop" log =
      [(.warn, [("id", id), ("code", "ALREADY_EXISTS")])] ∧
    Event.under "find laptop" log = [(.debug, [("id", "a"), ("found", "false")])] ∧
    ((log.filter fun event => event.heading = "cannot read random bytes for a laptop ID").map
      Event.line = [(.warn, "cannot read random bytes for a laptop ID: exhausted", [])]) ∧
    refused.due 0 = [] ∧ refused.operation? = some createOperation ∧
    ∃ reply, (refused, reply) ∈ run.1 ∧ Event.under "saved laptop" reply.events = [] ∧
      ∃ front, reply.events = front ++ [.completed createOperation] ∧
        Event.under "Operation completed" front = [] := by
  intro store entropy id before refused run log
  obtain ⟨_, _, hsaved, _, hrefusals, hlookups, _, hunread, hcalls⟩ :=
    log_audits_store store 0 (before ++ refused :: []) 0
  have hmem := List.mem_of_getElem? (runAll_at (Call.perform store 0) before [] refused 0)
  have hcreated : createdIds run.1 = [id] := by decide +kernel +zetaReduce
  have hlooked : lookups run.1 = [("a", false)] := by decide +kernel +zetaReduce
  let recorded := runAll (Call.perform store.recording 0) (before ++ refused :: []) (0, [])
  have hanswers : recorded.2.2.filterMap StoreAnswer.refusal? = [(id, .alreadyExists id)] := by
    decide +kernel +zetaReduce
  have hdue : refused.due 0 = [] := by decide +kernel +zetaReduce
  obtain ⟨hquiet, hend⟩ := hcalls refused _ hmem
  refine ⟨?_, ?_, ?_, hunread.trans (by decide +kernel +zetaReduce), hdue, rfl, _, hmem,
    hquiet (Or.inl hdue) _ List.mem_cons_self, hend _ rfl⟩
  · exact hsaved.trans (congrArg _ hcreated)
  · exact hrefusals.trans (congrArg _ hanswers)
  · exact hlookups.trans (congrArg _ hlooked)

end Service

end LaptopCatalogue
