import LaptopCatalogue.Proofs.Stream.Accounts

/-!
# The log of a search

A scan logs each laptop that it has put into the channel, and when the search of the store has ended
it logs how, and with how many laptops. The log, the channel and the calls of the store's receiver
are kept at different moments, with the client moving in between; they agree whenever the scan is
over.

* `Scan.EndsWith` says how a search ends whose receiver gave certain answers.
* `Stream.putDuring` are the items that are put into the channel, `Stream.Carries` is what becomes
  of them.
* `Stream.Logs` is the invariant of the log, by the phases of `Stream.Concludes`.
* `Stream.logOf` is the log of a scan that is over, and `Stream.search_log_is_exact` is the
  statement about every search of every store.
-/

namespace LaptopCatalogue

namespace Scan

/-! ## Searches and answers -/

/-- A receiver that gives answers that are laid down beforehand, and accepts when none is left. -/
def replay : Laptop → List (Except StoreError Unit) →
    Except StoreError Unit × List (Except StoreError Unit)
  | _, [] => (.ok (), [])
  | _, answer :: answers => (answer, answers)

/-- How a search ends whose receiver was called like this: a receiver that gives the same answers is
called for the same laptops, and this is the result. -/
def EndsWith (scan : Scan) (calls : Calls) (outcome : Outcome Unit) : Prop :=
  scan.run (noting replay) (calls.map Prod.snd, []) = (outcome, [], calls)

theorem handOver_replay (accepts rest : List Laptop) (answers : List (Except StoreError Unit))
    (calls : Calls) :
    handOver (noting replay) (accepts ++ rest)
        ((accepts.map accepted).map Prod.snd ++ answers, calls) =
      handOver (noting replay) rest (answers, calls ++ accepts.map accepted) := by
  induction accepts generalizing calls with
  | nil => simp
  | cons laptop accepts ih =>
    have hcall : noting replay laptop
        (((laptop :: accepts).map accepted).map Prod.snd ++ answers, calls) =
        (.ok (), (accepts.map accepted).map Prod.snd ++ answers, calls ++ [accepted laptop]) := rfl
    simp only [List.cons_append, handOver, hcall, ih]
    simp

/-- A search of which every laptop is accepted ends as it would by itself. -/
theorem endsWith_ending (scan : Scan) : scan.EndsWith (scan.laptops.map accepted) scan.ending := by
  have hhanded := handOver_replay scan.laptops [] [] []
  rw [List.append_nil, List.append_nil, List.nil_append] at hhanded
  exact run_of_accepted hhanded

/-- A search of which a laptop is refused ends with the failure that refuses it. -/
theorem endsWith_refusal {scan : Scan} {count : Nat} {laptop : Laptop}
    (hlaptop : scan.laptops[count]? = some laptop) (error : StoreError) :
    scan.EndsWith ((scan.laptops.take count).map accepted ++ [(laptop, .error error)])
      (.failed error) := by
  -- the refused laptop stands between those that were accepted and those that are not handed over
  obtain ⟨hless, hget⟩ := List.getElem?_eq_some_iff.mp hlaptop
  have hsplit : scan.laptops =
      scan.laptops.take count ++ laptop :: scan.laptops.drop (count + 1) := by
    rw [← hget, List.cons_getElem_drop_succ, List.take_append_drop]
  have hhanded := handOver_replay (scan.laptops.take count)
    (laptop :: scan.laptops.drop (count + 1)) [.error error] []
  rw [← hsplit] at hhanded
  unfold EndsWith
  rw [List.map_append]
  exact run_of_refused hhanded

end Scan

def Item.laptop? : Item → Option Laptop
  | .laptop record => some record
  | .failure _ => none

def laptopsIn (items : List Item) : List Laptop := items.filterMap Item.laptop?

namespace Stream

open Scan (Calls accepted)

/-! ## What is put into the channel -/

/-- The items that a step of the scan puts into the channel. -/
def putBy (stream next : Stream) : Move → List Item
  | .advance => next.channel.drop stream.channel.length
  | .receive | .leave => []

/-- The items that are put into the channel during moves. -/
def putDuring : List Move → Stream → List Item
  | [], _ => []
  | move :: moves, stream =>
    match stream.step? move with
    | some next => stream.putBy next move ++ putDuring moves next
    | none => []

/-- What was put into the channel: what the client has received, and some items more, no more than
the channel has room for. While the client is there, these are in the channel. -/
def Carries (put : List Item) (stream : Stream) : Prop :=
  ∃ rest, put = stream.received ++ rest ∧ rest.length ≤ stream.capacity ∧
    (stream.connected = true → rest = stream.channel)

/-- A step that leaves the channel alone puts nothing into it. -/
theorem putBy_of_channel_eq {stream next : Stream} (h : next.channel = stream.channel) :
    stream.putBy next .advance = [] := by
  simp [putBy, h]

theorem carries_start (buffer : Nat) (scan : Scan) : Carries [] (start buffer scan) :=
  ⟨[], rfl, Nat.zero_le _, fun _ => rfl⟩

theorem Carries.of_same {put : List Item} {stream next : Stream} (h : Carries put stream)
    (hchannel : next.channel = stream.channel) (hreceived : next.received = stream.received)
    (hcapacity : next.capacity = stream.capacity)
    (hconnected : next.connected = stream.connected) :
    Carries (put ++ stream.putBy next .advance) next := by
  unfold Carries
  rw [putBy_of_channel_eq hchannel, List.append_nil, hchannel, hreceived, hcapacity, hconnected]
  exact h

/-- Every step keeps account of what was put into the channel. -/
theorem Carries.step {put : List Item} {stream next : Stream} {move : Move}
    (h : Carries put stream) (hstep : Step stream move next) :
    Carries (put ++ stream.putBy next move) next := by
  cases hstep with
  | visit _ _ => exact h.of_same rfl rfl rfl rfl
  | finish _ _ => exact h.of_same (by simp) (by simp) (by simp) (by simp)
  | refuse _ _ => exact h.of_same (by simp) (by simp) (by simp) (by simp)
  | keepBack _ _ => exact h.of_same rfl rfl rfl rfl
  | @send laptop _ hconnected hroom =>
    obtain ⟨rest, hput, _, hthere⟩ := h
    obtain rfl := hthere hconnected
    refine ⟨stream.channel ++ [.laptop laptop], by simp [putBy, hput], ?_, fun _ => rfl⟩
    rw [List.length_append]
    exact hroom
  | @report error _ hconnected hroom =>
    obtain ⟨rest, hput, _, hthere⟩ := h
    obtain rfl := hthere hconnected
    refine ⟨stream.channel ++ [.failure (error.status "cannot search laptops")],
      by simp [putBy, hput, close], ?_, fun _ => rfl⟩
    rw [List.length_append]
    exact hroom
  | @receive item channel hconnected hchannel =>
    obtain ⟨rest, hput, hfits, hthere⟩ := h
    obtain rfl := hthere hconnected
    refine ⟨channel, by simp [putBy, hput, hchannel], ?_, fun _ => rfl⟩
    rw [hchannel, List.length_cons] at hfits
    exact Nat.le_of_succ_le hfits
  | leave _ =>
    -- what was in the channel is lost, but it was put there
    obtain ⟨rest, hput, hfits, _⟩ := h
    refine ⟨rest, by simp [putBy, hput], hfits, ?_⟩
    intro hconnected
    cases hconnected

/-! ## The end of a search -/

/-- The event that tells how the search of the store ended. A search that aborted has none. -/
def verdict (count : Nat) : Outcome Unit → List Event
  | .returned () => [.searchFinished count]
  | .failed (.cancelled reason) => [.searchStopped count reason]
  | .failed error => [.searchFailed count error]
  | .aborted _ => []

/-- Where a search has ended, the scan is over, unless there is a failure to be told. -/
theorem finish_cases (stream : Stream) (outcome : Outcome Unit) :
    (Scan.closing outcome = [] ∧
      stream.finish outcome = stream.close (verdict stream.sent outcome)) ∨
    ∃ error, outcome = .failed error ∧
      Scan.closing outcome = [.failure (error.status "cannot search laptops")] ∧
      stream.finish outcome =
        { stream with
          phase := .reporting error
          events := stream.events ++ verdict stream.sent outcome } := by
  cases outcome with
  | returned _ => exact Or.inl ⟨rfl, rfl⟩
  | failed error =>
    -- only the one who asked a search to stop is not told that it did
    cases error with
    | cancelled _ => exact Or.inl ⟨rfl, rfl⟩
    | alreadyExists _ => exact Or.inr ⟨_, rfl, rfl, rfl⟩
    | emptyId => exact Or.inr ⟨_, rfl, rfl, rfl⟩
    | lockPoisoned _ => exact Or.inr ⟨_, rfl, rfl, rfl⟩
  | aborted _ => exact Or.inl ⟨rfl, rfl⟩

/-- What follows the laptops in each phase: the items told to the client, and the events. -/
inductive Concludes (scan : Scan) (calls : Calls) (count : Nat) :
    Phase → List Item → List Event → Prop where
  | scanning : Concludes scan calls count .scanning [] []
  | sending {laptop : Laptop} : Concludes scan calls count (.sending laptop) [] []
  /-- The search has failed, and the client has yet to be told. -/
  | reporting {error : StoreError} (hends : scan.EndsWith calls (.failed error))
      (hclosing : Scan.closing (.failed error) =
        [.failure (error.status "cannot search laptops")]) :
      Concludes scan calls count (.reporting error) [] (verdict count (.failed error))
  /-- The search is over, and the client was told what there is to be told. -/
  | told {outcome : Outcome Unit} (hends : scan.EndsWith calls outcome) :
      Concludes scan calls count .ended (Scan.closing outcome)
        (verdict count outcome ++ [.completed operation])
  /-- The search has failed, and nobody was there to be told. -/
  | untold {outcome : Outcome Unit} (hends : scan.EndsWith calls outcome)
      (hclosing : Scan.closing outcome ≠ []) :
      Concludes scan calls count .ended []
        (verdict count outcome ++ [.failureUndelivered, .completed operation])

/-- What was put into the channel and what was logged: the laptops that were sent, and what follows
them. -/
structure Logs (scan : Scan) (calls : Calls) (put : List Item) (stream : Stream) : Prop where
  ending : stream.scan.ending = scan.ending
  concluded : ∃ closing tail,
    put = (scan.laptops.take stream.sent).map .laptop ++ closing ∧
    stream.events = ((scan.laptops.take stream.sent).map fun laptop => .sent laptop.id) ++ tail ∧
    Concludes scan calls stream.sent stream.phase closing tail

theorem logs_start (buffer : Nat) (scan : Scan) : Logs scan [] [] (start buffer scan) := by
  refine ⟨rfl, [], [], ?_, ?_, .scanning⟩
  · simp [start]
  · simp [start]

/-- Every step keeps the log, with the call that it answers and the item that it puts into the
channel. -/
theorem Logs.step {scan : Scan} {calls : Calls} {put : List Item} {stream next : Stream}
    {move : Move} (h : Logs scan calls put stream) (haccounts : Accounts scan.laptops calls stream)
    (hstep : Step stream move next) :
    Logs scan (calls ++ stream.answeredBy move) (put ++ stream.putBy next move) next := by
  obtain ⟨hending, closing, tail, hput, hevents, hconcludes⟩ := h
  cases hstep with
  | visit hphase hlaptops =>
    rw [hphase] at hconcludes
    cases hconcludes with
    | scanning =>
      rw [putBy_of_channel_eq (by rfl), List.append_nil]
      exact ⟨hending, [], [], hput, hevents, .sending⟩
  | finish hphase hlaptops =>
    rw [hphase] at hconcludes
    cases hconcludes with
    | scanning =>
      have hnone : stream.answeredBy .advance = [] := by simp [answeredBy, hphase]
      obtain ⟨hsent, rfl⟩ := haccounts.calls_of_handed_over hphase hlaptops
      rw [putBy_of_channel_eq (by simp), hnone, List.append_nil, List.append_nil, hending]
      -- all laptops were accepted, so the search ends as it would by itself
      have hends := scan.endsWith_ending
      rcases finish_cases stream scan.ending with
        ⟨hclosing, hfinish⟩ | ⟨error, herror, hclosing, hfinish⟩
      · rw [hfinish]
        refine ⟨hending, _, _, ?_, ?_, .told hends⟩
        · rw [hput, hclosing]
          rfl
        · simp [close, hevents]
      · rw [hfinish]
        rw [herror] at hends hclosing
        refine ⟨hending, _, _, hput, ?_, .reporting hends hclosing⟩
        simp [hevents, herror]
  | @refuse laptop hphase hgone =>
    rw [hphase] at hconcludes
    cases hconcludes with
    | sending =>
      have hcall : stream.answeredBy .advance = [refused laptop] := by
        simp [answeredBy, hphase, hgone]
      -- the laptop that is refused is the next one, and its refusal is how the search ends
      obtain ⟨hlaptop, rfl⟩ := haccounts.calls_of_sending hphase
      have hends := Scan.endsWith_refusal hlaptop (.cancelled clientGone)
      rw [putBy_of_channel_eq (by simp), hcall, List.append_nil]
      refine ⟨hending, [], _, hput, ?_, .told hends⟩
      simp [finish, close, hevents, verdict]
  | @send laptop hphase hconnected hroom =>
    rw [hphase] at hconcludes
    cases hconcludes with
    | sending =>
      -- channel, counter and log grow by the same laptop
      obtain ⟨hlaptop, rfl⟩ := haccounts.calls_of_sending hphase
      have htake : scan.laptops.take (stream.sent + 1) =
          scan.laptops.take stream.sent ++ [laptop] := by
        simp [List.take_add_one, hlaptop]
      refine ⟨hending, [], [], ?_, ?_, .scanning⟩
      · simp [putBy, hput, htake]
      · simp [hevents, htake]
  | @keepBack error hphase hgone =>
    rw [hphase] at hconcludes
    cases hconcludes with
    | reporting hends hclosing =>
      have hnone : stream.answeredBy .advance = [] := by simp [answeredBy, hphase]
      rw [putBy_of_channel_eq (by rfl), hnone, List.append_nil, List.append_nil]
      refine ⟨hending, [], _, hput, ?_, .untold hends ?_⟩
      · simp [close, hevents]
      · rw [hclosing]
        simp
  | @report error hphase hconnected hroom =>
    rw [hphase] at hconcludes
    cases hconcludes with
    | reporting hends hclosing =>
      have hnone : stream.answeredBy .advance = [] := by simp [answeredBy, hphase]
      rw [hnone, List.append_nil]
      refine ⟨hending, _, _, ?_, ?_, .told hends⟩
      · simp [putBy, close, hput, hclosing]
      · simp [close, hevents]
  -- the client changes nothing that the log speaks of
  | receive hconnected hchannel =>
    exact ⟨hending, closing, tail, by simpa [putBy] using hput, hevents,
      by simpa [answeredBy] using hconcludes⟩
  | leave hconnected =>
    exact ⟨hending, closing, tail, by simpa [putBy] using hput, hevents,
      by simpa [answeredBy] using hconcludes⟩

/-! ## Runs -/

/-- What every step keeps, with the call that it answers and the items that it puts into the
channel, moves keep. -/
theorem during_induction {P : Calls → List Item → Stream → Prop}
    (hstep : ∀ {calls put stream next move}, Step stream move next → P calls put stream →
      P (calls ++ stream.answeredBy move) (put ++ stream.putBy next move) next)
    {moves : List Move} {calls : Calls} {put : List Item} {stream final : Stream}
    (h : stream.after? moves = some final) (hstart : P calls put stream) :
    P (calls ++ callsDuring moves stream) (put ++ putDuring moves stream) final := by
  induction moves generalizing calls put stream with
  | nil =>
    cases h
    simpa [callsDuring, putDuring] using hstart
  | cons move moves ih =>
    obtain ⟨next, hnext, hrest⟩ := Option.bind_eq_some_iff.mp h
    simpa [callsDuring, putDuring, hnext] using ih hrest (hstep (step_of_step? hnext) hstart)

theorem logs_after {buffer : Nat} {scan : Scan} {moves : List Move} {final : Stream}
    (h : (start buffer scan).after? moves = some final) :
    Accounts scan.laptops (callsDuring moves (start buffer scan)) final ∧
      Logs scan (callsDuring moves (start buffer scan)) (putDuring moves (start buffer scan))
        final ∧
      Carries (putDuring moves (start buffer scan)) final := by
  -- the accounts say which calls there were when a search ends, so they are carried along
  exact during_induction
    (P := fun calls put stream =>
      Accounts scan.laptops calls stream ∧ Logs scan calls put stream ∧ Carries put stream)
    (fun hstep ⟨haccounts, hlogs, hcarries⟩ =>
      ⟨haccounts.step hstep, hlogs.step haccounts hstep, hcarries.step hstep⟩)
    h ⟨accounts_start buffer scan, logs_start buffer scan, carries_start buffer scan⟩

/-! ## What the log tells -/

/-- The headings under which it is logged that a search came to an end. -/
def closingHeadings : List String :=
  ["search-laptop finished", "search-laptop stopped early", "search-laptop failed"]

/-- What the log has of the end of a search that put so many laptops into the channel. -/
def conclusion (count : Nat) : Outcome Unit → List (Level × String × List (String × String))
  | .returned () => [(.info, "search-laptop finished", [("count", toString count)])]
  | .failed (.cancelled reason) =>
    [(.info, "search-laptop stopped early", [("count", toString count), ("reason", reason)])]
  | .failed error =>
    [(.warn, "search-laptop failed: " ++ error.message,
      [("count", toString count), ("code", error.code)])]
  | .aborted _ => []

theorem map_line_verdict (count : Nat) (outcome : Outcome Unit) :
    (verdict count outcome).map Event.line = conclusion count outcome := by
  have hmessage (error : StoreError) : (Event.searchFailed count error).message =
      "search-laptop failed: " ++ error.message := by
    have hsplit : "search-laptop failed: " = "search-laptop failed" ++ ": " := by rfl
    rw [hsplit]
    rfl
  unfold verdict conclusion
  split
  · rfl
  · rfl
  · simp [Event.line, hmessage, Event.level, Event.fields]
  · rfl

/-- Unless it aborted, one event tells how a search ended. -/
theorem countP_closing_verdict {outcome : Outcome Unit} (h : ∀ reason, outcome ≠ .aborted reason)
    (count : Nat) :
    (verdict count outcome).countP (fun event => event.heading ∈ closingHeadings) = 1 := by
  unfold verdict
  split
  · rfl
  · rfl
  · rfl
  · exact absurd rfl (h _)

theorem countP_completed_verdict (outcome : Outcome Unit) (count : Nat) :
    (verdict count outcome).countP (fun event => event.heading = "Operation completed") = 0 := by
  unfold verdict
  split <;> rfl

/-- The log of a scan that is over, when these items were put into the channel and the search ended
like this: the laptops, how the search ended, whether a failure was left untold, and the end. -/
def logOf (put : List Item) (outcome : Outcome Unit) : List Event :=
  ((laptopsIn put).map fun laptop => .sent laptop.id) ++
    verdict (laptopsIn put).length outcome ++
    (if ∀ item ∈ Scan.closing outcome, item ∈ put then [] else [.failureUndelivered]) ++
    [.completed operation]

theorem map_line_logOf (put : List Item) (outcome : Outcome Unit) :
    (logOf put outcome).map Event.line =
      ((laptopsIn put).map fun laptop => (.debug, "sent laptop", [("id", laptop.id)])) ++
      conclusion (laptopsIn put).length outcome ++
      (if ∀ item ∈ Scan.closing outcome, item ∈ put then []
        else [(.debug, "client went away before the search error was delivered", [])]) ++
      [(.info, "Operation completed", [("operation", operation)])] := by
  unfold logOf
  rw [← map_line_verdict]
  simp only [List.map_append, List.map_map, apply_ite (List.map Event.line)]
  rfl

/-- What is neither a laptop nor an untold failure is in the middle of the log or at its end. -/
theorem countP_logOf {p : Event → Bool} (hsent : ∀ id, p (.sent id) = false)
    (huntold : p .failureUndelivered = false) (put : List Item) (outcome : Outcome Unit) :
    (logOf put outcome).countP p =
      (verdict (laptopsIn put).length outcome).countP p +
        if p (.completed operation) then 1 else 0 := by
  have hlaptops : ((laptopsIn put).map fun laptop => Event.sent laptop.id).countP p = 0 := by
    simp [hsent]
  have hmiddle : (if ∀ item ∈ Scan.closing outcome, item ∈ put then []
      else [Event.failureUndelivered]).countP p = 0 := by
    split <;> simp [huntold]
  unfold logOf
  rw [List.countP_append, List.countP_append, List.countP_append, hlaptops, hmiddle,
    List.countP_singleton, Nat.zero_add, Nat.add_zero]

/-- The log says that a search was stopped for a reason exactly if that is how it ended. -/
theorem searchStopped_mem_logOf_iff (put : List Item) (outcome : Outcome Unit) (reason : String) :
    .searchStopped (laptopsIn put).length reason ∈ logOf put outcome ↔
      outcome = .failed (.cancelled reason) := by
  have hverdict : .searchStopped (laptopsIn put).length reason ∈
      verdict (laptopsIn put).length outcome ↔ outcome = .failed (.cancelled reason) := by
    cases outcome with
    | returned _ => simp [verdict]
    | failed error => cases error <;> simp [verdict, eq_comm]
    | aborted _ => simp [verdict]
  unfold logOf
  rw [← hverdict]
  split <;> simp

theorem laptop?_of_mem_closing {outcome : Outcome Unit} {item : Item}
    (h : item ∈ Scan.closing outcome) : item.laptop? = none := by
  unfold Scan.closing at h
  split at h <;> simp at h
  rw [h]
  rfl

theorem laptopsIn_append_of_forall (laptops : List Laptop) {closing : List Item}
    (h : ∀ item ∈ closing, item.laptop? = none) :
    laptopsIn (laptops.map Item.laptop ++ closing) = laptops := by
  unfold laptopsIn
  rw [List.filterMap_append, List.filterMap_eq_nil_iff.mpr h, List.append_nil, List.filterMap_map]
  exact List.filterMap_some

/-- A scan that is over has put into the channel the laptops that it sent, and has told everything,
or has kept back a failure that was to be told. -/
theorem Logs.of_ended {scan : Scan} {calls : Calls} {put : List Item} {stream : Stream}
    (h : Logs scan calls put stream) (hwithin : stream.sent ≤ scan.laptops.length)
    (hended : stream.phase = .ended) :
    ∃ outcome, scan.EndsWith calls outcome ∧ laptopsIn put = scan.laptops.take stream.sent ∧
      (laptopsIn put).length = stream.sent ∧ stream.events = logOf put outcome := by
  obtain ⟨_, closing, tail, hput, hevents, hconcludes⟩ := h
  have hcount : (scan.laptops.take stream.sent).length = stream.sent := by
    rw [List.length_take, Nat.min_eq_left hwithin]
  rw [hended] at hconcludes
  cases hconcludes with
  | @told outcome hends =>
    have hlaptops : laptopsIn put = scan.laptops.take stream.sent := by
      rw [hput]
      exact laptopsIn_append_of_forall _ fun item => laptop?_of_mem_closing
    have htold : ∀ item ∈ Scan.closing outcome, item ∈ put := by
      intro item hitem
      rw [hput]
      exact List.mem_append_right _ hitem
    refine ⟨outcome, hends, hlaptops, by rw [hlaptops, hcount], ?_⟩
    unfold logOf
    rw [if_pos htold, hlaptops, hcount, hevents]
    simp
  | @untold outcome hends hclosing =>
    have hlaptops : laptopsIn put = scan.laptops.take stream.sent := by
      rw [hput]
      exact laptopsIn_append_of_forall _ fun item hitem => by cases hitem
    have huntold : ¬∀ item ∈ Scan.closing outcome, item ∈ put := by
      intro hall
      -- what remained to be told is no laptop, and only laptops were put into the channel
      obtain ⟨item, hitem⟩ := List.exists_mem_of_ne_nil _ hclosing
      have hmem := hall item hitem
      rw [hput, List.append_nil] at hmem
      obtain ⟨laptop, _, rfl⟩ := List.mem_map.mp hmem
      cases laptop?_of_mem_closing hitem
    refine ⟨outcome, hends, hlaptops, by rw [hlaptops, hcount], ?_⟩
    unfold logOf
    rw [if_neg huntold, hlaptops, hcount, hevents]
    simp

/-- The laptops that the client has received were put into the channel, and of those that were, no
more than the channel has room for were not received. -/
theorem Carries.laptop_bounds {put : List Item} {stream : Stream} (h : Carries put stream) :
    (laptopsIn stream.received).length ≤ (laptopsIn put).length ∧
      (laptopsIn put).length ≤ (laptopsIn stream.received).length + stream.capacity := by
  -- of the items that were not received, some are laptops
  obtain ⟨rest, hput, hfits, _⟩ := h
  have hrest : (laptopsIn rest).length ≤ rest.length := List.length_filterMap_le ..
  have hsplit : laptopsIn put = laptopsIn stream.received ++ laptopsIn rest := by
    rw [hput]
    exact List.filterMap_append
  rw [hsplit, List.length_append]
  omega

/-- The log of a search is exact. Whatever scan the store offers, whatever the buffer (above the
largest that a channel can have there is no stream) and whatever the order in which scan and client
move, at whatever moment the client goes away: a scan that is over has logged the laptops that were
put into the channel, then, unless the search aborted, one event that says with their number how the
search ended, then, if a failure was to be told and could not be put into the channel, that nobody
was there to be told, and last that the scan is over. How the search ended is what it gives to the
answers that its receiver gave. The client has received no more laptops than were put into the
channel, and no fewer but for those that the channel has room for. -/
theorem search_log_is_exact {σ : Type} {store : Store σ} {request : SearchRequest} {s s' : σ}
    {scan : Scan} (hscan : store.search (request.filter.getD {}) s = (scan, s')) (buffer : Nat)
    {moves : List Move} {final : Stream}
    (hmoves : (start buffer scan).after? moves = some final) (hended : final.phase = .ended) :
    (capacityFor buffer ≤ maxCapacity →
      (Service.search store buffer request s).2 = (some (start buffer scan), s')) ∧
    ∃ outcome,
      let calls := callsDuring moves (start buffer scan)
      let put := putDuring moves (start buffer scan)
      let count := (laptopsIn put).length
      scan.run (Scan.noting Scan.replay) (calls.map Prod.snd, []) = (outcome, [], calls) ∧
      final.events.map Event.line =
        ((laptopsIn put).map fun laptop => (.debug, "sent laptop", [("id", laptop.id)])) ++
        conclusion count outcome ++
        (if ∀ item ∈ Scan.closing outcome, item ∈ put then []
          else [(.debug, "client went away before the search error was delivered", [])]) ++
        [(.info, "Operation completed", [("operation", operation)])] ∧
      ((∀ reason, outcome ≠ .aborted reason) →
        final.events.countP (fun event => event.heading ∈ closingHeadings) = 1) ∧
      final.events.countP (fun event => event.heading = "Operation completed") = 1 ∧
      laptopsIn put = scan.laptops.take count ∧
      (laptopsIn final.received).length ≤ count ∧
      count ≤ (laptopsIn final.received).length + max 1 buffer := by
  obtain ⟨haccounts, hlogs, hcarries⟩ := logs_after hmoves
  have hwithin : final.sent ≤ scan.laptops.length :=
    haccounts.visits_bounds.1.trans haccounts.within
  obtain ⟨outcome, hends, hlaptops, hsent, hevents⟩ := hlogs.of_ended hwithin hended
  have hcapacity : final.capacity = max 1 buffer := (delivers_after hmoves).capacity_eq
  obtain ⟨hfewer, hmore⟩ := hcarries.laptop_bounds
  rw [hcapacity] at hmore
  rw [← hsent] at hlaptops
  refine ⟨?_, outcome, hends, ?_, ?_, ?_, hlaptops, hfewer, hmore⟩
  · intro hadmitted
    simp [Service.search, hadmitted, hscan]
  · rw [hevents, map_line_logOf]
  · intro hwhole
    rw [hevents, countP_logOf (fun _ => by rfl) (by rfl), countP_closing_verdict hwhole]
    rfl
  · rw [hevents, countP_logOf (fun _ => by rfl) (by rfl), countP_completed_verdict]
    rfl

/-- One laptop fills the channel and a failure follows; the client goes away before there is room
for it. -/
theorem search_log_is_exact_untold :
    let scan : Scan := ⟨[{ id := "a" }], .failed (.lockPoisoned "search")⟩
    let store : Store Unit := {
      save := fun _ _ => (.returned (), ())
      find := fun _ _ => (.returned none, ())
      search := fun _ _ => (scan, ()) }
    let request : SearchRequest := {}
    let moves : List Move := [.advance, .advance, .advance, .leave, .advance]
    store.search (request.filter.getD {}) () = (scan, ()) ∧
      ∃ final, (start 0 scan).after? moves = some final ∧ final.phase = .ended ∧
        final.received = [] ∧
        final.events.map Event.line =
          [(.debug, "sent laptop", [("id", "a")]),
            (.warn, "search-laptop failed: store lock poisoned during search",
              [("count", "1"), ("code", "LOCK_POISONED")]),
            (.debug, "client went away before the search error was delivered", []),
            (.info, "Operation completed", [("operation", "search_laptop_scan")])] ∧
        final.events.countP (fun event => event.heading ∈ closingHeadings) = 1 := by
  intro scan store request moves
  have hscan : store.search (request.filter.getD {}) () = (scan, ()) := rfl
  obtain ⟨final, hmoves, hended, hreceived⟩ :
      ∃ final, (start 0 scan).after? moves = some final ∧ final.phase = .ended ∧
        final.received = [] :=
    ⟨_, rfl, rfl, rfl⟩
  obtain ⟨_, outcome, hends, hlines, hone, _⟩ := search_log_is_exact hscan 0 hmoves hended
  obtain rfl : (.failed (.lockPoisoned "search")) = outcome := congrArg Prod.fst hends
  refine ⟨hscan, final, hmoves, hended, hreceived, hlines.trans ?_, hone ?_⟩
  · decide +kernel +zetaReduce
  · intro reason h
    cases h

end Stream

end LaptopCatalogue
