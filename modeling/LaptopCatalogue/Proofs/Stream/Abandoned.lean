import LaptopCatalogue.Config.Basic
import LaptopCatalogue.Proofs.Stream.Log
import LaptopCatalogue.Proofs.Stream.Reading

/-!
# Searches whose client goes away

A full channel holds the scan back. So the scan is never further ahead of the client than the
channel has room, and one laptop more that was handed over and waits. When the client goes away,
that laptop is refused, and the store stops.

* `Stream.Winding`: what stays as it was when the client went away.
* `Stream.Abandoned` is a search whose client goes away, `Stream.StoppedAfter` says how it ends
  when the scan was waiting or over at that moment: with which counts, and with which log.
* `Stream.abandoned_search_counts` is the statement about every search of every store.
-/

namespace LaptopCatalogue.Stream

open Scan (Calls accepted acceptFirst noting)

/-! ## After the client has gone -/

/-- How many moves a scan without a client can still make. -/
def movesAlone (stream : Stream) : Nat :=
  match stream.phase with
  | .scanning => 2
  | .sending _ | .reporting _ => 1
  | .ended => 0

/-- What stays as it was when the client went away. -/
structure Winding (gone stream : Stream) : Prop where
  connected : stream.connected = false
  received : stream.received = gone.received
  sent : stream.sent = gone.sent

/-- A scan without a client sends nothing and is soon over. -/
theorem Winding.step {gone stream next : Stream} {move : Move} (h : Winding gone stream)
    (hstep : Step stream move next) :
    Winding gone next ∧ next.movesAlone < stream.movesAlone := by
  obtain ⟨hgone, hreceived, hsent⟩ := h
  cases hstep with
  | visit hphase hlaptops =>
    exact ⟨⟨hgone, hreceived, hsent⟩, by simp [movesAlone, hphase]⟩
  | finish hphase hlaptops =>
    refine ⟨⟨by simpa using hgone, by simpa using hreceived, by simpa using hsent⟩, ?_⟩
    rcases finish_phase stream stream.scan.ending with hended | ⟨error, hreporting⟩
    · simp [movesAlone, hphase, hended]
    · simp [movesAlone, hphase, hreporting]
  | refuse hphase _ =>
    refine ⟨⟨by simpa using hgone, by simpa using hreceived, by simpa using hsent⟩, ?_⟩
    simp [movesAlone, hphase, finish]
  | send _ hconnected _ => simp [hgone] at hconnected
  | keepBack hphase _ =>
    exact ⟨⟨hgone, hreceived, hsent⟩, by simp [movesAlone, hphase]⟩
  | report _ hconnected _ => simp [hgone] at hconnected
  | receive hconnected _ => simp [hgone] at hconnected
  | leave hconnected => simp [hgone] at hconnected

theorem Winding.after {gone stream final : Stream} {moves : List Move} (h : Winding gone stream)
    (hmoves : stream.after? moves = some final) :
    Winding gone final ∧ final.movesAlone + moves.length ≤ stream.movesAlone := by
  induction moves generalizing stream with
  | nil =>
    cases hmoves
    exact ⟨h, Nat.le_refl _⟩
  | cons move moves ih =>
    obtain ⟨next, hnext, hrest⟩ := Option.bind_eq_some_iff.mp hmoves
    obtain ⟨hnext', hless⟩ := h.step (step_of_step? hnext)
    obtain ⟨hfinal, hcount⟩ := ih hnext' hrest
    refine ⟨hfinal, ?_⟩
    rw [List.length_cons]
    omega

theorem movesAlone_le (stream : Stream) : stream.movesAlone ≤ 2 := by
  unfold movesAlone
  split <;> omega

/-- A scan without a client is never kept waiting. -/
theorem exists_advance_of_gone {stream : Stream} (hgone : stream.connected = false)
    (hphase : stream.phase ≠ .ended) : ∃ next, stream.advance? = some next := by
  cases h : stream.phase with
  | scanning =>
    cases hlaptops : stream.scan.laptops with
    | nil => simp [advance?, h, hlaptops]
    | cons laptop rest => simp [advance?, h, hlaptops]
  | sending laptop => simp [advance?, h, hgone]
  | reporting error => simp [advance?, h, hgone]
  | ended => exact absurd h hphase

/-! ## Abandoned searches -/

/-- A search whose client goes away: moves lead to where it does so, and further moves from there
to another place. -/
structure Abandoned (search : Stream) (before : List Move) (left : Stream) (after : List Move)
    (final : Stream) : Prop where
  before : search.after? before = some left
  after : left.after? (.leave :: after) = some final

section

variable {buffer : Nat} {scan : Scan} {before after : List Move} {left final : Stream}

theorem Abandoned.connected (h : Abandoned (start buffer scan) before left after final) :
    left.connected = true := by
  obtain ⟨gone, hleave, _⟩ := Option.bind_eq_some_iff.mp h.after
  cases step_of_step? hleave with
  | leave hconnected => exact hconnected

/-- The scan of an abandoned search winds down from where its client went away. -/
theorem Abandoned.winding (h : Abandoned (start buffer scan) before left after final) :
    Winding left final ∧ after.length ≤ 2 := by
  obtain ⟨gone, hleave, hafter⟩ := Option.bind_eq_some_iff.mp h.after
  cases step_of_step? hleave with
  | leave _ =>
    have hgone : Winding left { left with connected := false, channel := [] } := ⟨rfl, rfl, rfl⟩
    obtain ⟨hfinal, hcount⟩ := hgone.after hafter
    refine ⟨hfinal, ?_⟩
    have hle := movesAlone_le { left with connected := false, channel := [] }
    omega

theorem Abandoned.accounts_left (h : Abandoned (start buffer scan) before left after final) :
    Accounts scan.laptops (callsDuring before (start buffer scan)) left := by
  simpa using (accounts_start buffer scan).after h.before

theorem Abandoned.whole (h : Abandoned (start buffer scan) before left after final) :
    (start buffer scan).after? (before ++ .leave :: after) = some final := by
  rw [after?_append, h.before]
  exact h.after

theorem Abandoned.accounts (h : Abandoned (start buffer scan) before left after final) :
    Accounts scan.laptops (callsDuring (before ++ .leave :: after) (start buffer scan)) final :=
  (logs_after h.whole).1

/-- Whenever the client goes away, no more laptops have been sent than it has received and the
channel holds. -/
theorem Abandoned.sent_le (h : Abandoned (start buffer scan) before left after final) :
    left.sent ≤ left.received.length + max 1 buffer := by
  have hdelivers := delivers_after h.before
  have hfits : left.channel.length ≤ max 1 buffer := hdelivers.capacity_eq ▸ hdelivers.fits
  have hsent := h.accounts_left.arrived h.connected
  omega

/-- A scan that waits for the client has filled the channel. -/
theorem full_of_waiting {stream : Stream} (hconnected : stream.connected = true)
    (hwaits : stream.advance? = none) (hphase : stream.phase ≠ .ended) :
    stream.capacity ≤ stream.channel.length := by
  cases h : stream.phase with
  | scanning =>
    cases hlaptops : stream.scan.laptops with
    | nil => simp [advance?, h, hlaptops] at hwaits
    | cons laptop rest => simp [advance?, h, hlaptops] at hwaits
  | sending laptop => simpa [advance?, h, hconnected, hasRoom] using hwaits
  | reporting error => simpa [advance?, h, hconnected, hasRoom] using hwaits
  | ended => exact absurd h hphase

/-- Where the client goes away from a scan that waits or is over, all laptops that fit have been
sent: those that the client has received and as many as the channel holds. -/
theorem Abandoned.sent_eq (h : Abandoned (start buffer scan) before left after final)
    (hwaits : left.advance? = none) :
    left.sent = min scan.laptops.length (left.received.length + max 1 buffer) := by
  have hdelivers := delivers_after h.before
  have hfits : left.channel.length ≤ max 1 buffer := hdelivers.capacity_eq ▸ hdelivers.fits
  have hsent := h.accounts_left.arrived h.connected
  by_cases hphase : left.phase = .ended
  · -- nothing is pending, so every laptop has been received or is in the channel
    have hall := congrArg List.length (hdelivers.conserved h.connected)
    simp only [pending, hphase, Scan.items, List.append_nil, List.length_append,
      List.length_map] at hall
    omega
  · have hfull := full_of_waiting h.connected hwaits hphase
    rw [hdelivers.capacity_eq] at hfull
    omega

/-- How the store's search ends whose receiver accepts so many laptops and finds the client gone at
the next. -/
def endingAfter (scan : Scan) (limit : Nat) : Outcome Unit :=
  if limit < scan.laptops.length then .failed (.cancelled clientGone) else scan.ending

/-- A receiver that gives the answers of such a search makes it end like that. -/
theorem endsWith_endingAfter (scan : Scan) (limit : Nat) :
    scan.EndsWith
      ((scan.laptops.take limit).map accepted ++ (scan.laptops[limit]?).toList.map refused)
      (endingAfter scan limit) := by
  unfold endingAfter
  cases hlaptop : scan.laptops[limit]? with
  | some laptop =>
    rw [if_pos (List.getElem?_eq_some_iff.mp hlaptop).1]
    exact Scan.endsWith_refusal hlaptop (.cancelled clientGone)
  | none =>
    have hall : scan.laptops.length ≤ limit := List.getElem?_eq_none_iff.mp hlaptop
    rw [if_neg (Nat.not_lt.mpr hall), List.take_of_length_le hall, Option.toList_none,
      List.map_nil, List.append_nil]
    exact scan.endsWith_ending

/-- How a search ends whose client takes so many laptops and goes away while the scan waits or is
over: it is the search in one go whose receiver accepts those and as many as the channel holds, and
is cancelled at the next one. The scan has logged that the search ended so. -/
structure StoppedAfter (scan : Scan) (count capacity : Nat) (calls : Calls) (put : List Item)
    (final : Stream) : Prop where
  received : final.received = (scan.laptops.take count).map .laptop
  sent : final.sent = min scan.laptops.length (count + capacity)
  put_eq : laptopsIn put = scan.laptops.take (count + capacity)
  visits : final.visits = min scan.laptops.length (count + capacity + 1)
  called : calls.length = final.visits
  cancelled : (∃ laptop, calls.getLast? = some (refused laptop)) ↔
    count + capacity < scan.laptops.length
  inOneGo : scan.run (noting (acceptFirst (count + capacity) (.cancelled clientGone))) (0, []) =
    (endingAfter scan (count + capacity), final.visits, calls)
  log : final.events = logOf put (endingAfter scan (count + capacity))
  stopped : .searchStopped final.sent clientGone ∈ final.events ↔
    count + capacity < scan.laptops.length ∨ scan.ending = .failed (.cancelled clientGone)

theorem Abandoned.stoppedAfter (h : Abandoned (start buffer scan) before left after final)
    (hwaits : left.advance? = none) (hcount : left.received.length ≤ scan.laptops.length)
    (hended : final.phase = .ended) :
    StoppedAfter scan left.received.length (max 1 buffer)
      (callsDuring (before ++ .leave :: after) (start buffer scan))
      (putDuring (before ++ .leave :: after) (start buffer scan)) final := by
  have hsent : final.sent = min scan.laptops.length (left.received.length + max 1 buffer) :=
    h.winding.1.sent.trans (h.sent_eq hwaits)
  obtain ⟨hcalls, hvisits⟩ := h.accounts.calls_eq hended hsent
  have hprefix : left.received <+: scan.items :=
    (List.prefix_append _ _).trans (delivers_after h.before).received_append_channel
  obtain ⟨haccounts, hlogs, _⟩ := logs_after h.whole
  obtain ⟨outcome, hends, hput, hcount', hevents⟩ :=
    hlogs.of_ended (haccounts.visits_bounds.1.trans haccounts.within) hended
  -- the answers of the receiver leave no other outcome
  have houtcome : outcome = endingAfter scan (left.received.length + max 1 buffer) := by
    rw [hcalls] at hends
    exact congrArg Prod.fst (hends.symm.trans (endsWith_endingAfter scan _))
  rw [houtcome] at hevents
  refine ⟨?_, hsent, ?_, hvisits, ?_, ?_, ?_, hevents, ?_⟩
  · rw [h.winding.1.received, List.map_take]
    calc left.received = scan.items.take left.received.length := List.prefix_iff_eq_take.mp hprefix
      _ = (scan.laptops.map Item.laptop).take left.received.length :=
        List.take_append_of_le_length (by simpa using hcount)
  · rw [hput, hsent, Nat.min_comm, ← List.take_eq_take_min]
  · rw [hcalls, hvisits, List.length_append, List.length_map, List.length_map, List.length_take]
    cases hlaptop : scan.laptops[left.received.length + max 1 buffer]? with
    | some laptop =>
      have hless := (List.getElem?_eq_some_iff.mp hlaptop).1
      simp
      omega
    | none =>
      have hall := List.getElem?_eq_none_iff.mp hlaptop
      simp
      omega
  · rw [hcalls, getLast?_calls_iff]
  · rw [run_acceptFirst, hcalls, hvisits]
    rfl
  · rw [hevents, ← hcount', searchStopped_mem_logOf_iff]
    unfold endingAfter
    by_cases hmore : left.received.length + max 1 buffer < scan.laptops.length <;> simp [hmore]

end

/-! ## A client that takes so many items -/

theorem receiveWithin_received_le (wanted : Nat) (stream : Stream) :
    (receiveWithin wanted stream).received.length ≤ stream.received.length + wanted := by
  induction wanted generalizing stream with
  | zero =>
    obtain ⟨_, _, _, hreceived, _⟩ := settle_spec stream
    simp [receiveWithin, hreceived]
  | succ wanted ih =>
    obtain ⟨_, _, _, hreceived, _⟩ := settle_spec stream
    cases hreceive : stream.settle.receive? with
    | none => simp [receiveWithin, hreceive, hreceived]
    | some next =>
      have hcount := receive?_received hreceive
      have hle := ih next
      simp only [receiveWithin, hreceive]
      rw [hcount, hreceived] at hle
      omega

/-- The client that takes so many items takes them and goes away while the scan waits or is over. -/
theorem readSome_abandoned (buffer : Nat) (scan : Scan) {count : Nat}
    (hcount : count ≤ scan.laptops.length) :
    ∃ before left after, Abandoned (start buffer scan) before left after
        ((start buffer scan).readSome count) ∧
      left.advance? = none ∧ left.received.length = count ∧
      ((start buffer scan).readSome count).phase = .ended := by
  obtain ⟨before, hstays, hbefore, hwaits, hend⟩ := receiveWithin_spec count (start buffer scan)
  have hle := receiveWithin_received_le count (start buffer scan)
  have hread : (start buffer scan).readSome count =
      if (receiveWithin count (start buffer scan)).received.length < count then
        receiveWithin count (start buffer scan)
      else ((receiveWithin count (start buffer scan)).leave?.getD
        (receiveWithin count (start buffer scan))).settle := rfl
  generalize receiveWithin count (start buffer scan) = left at *
  have hdelivers := delivers_after hbefore
  have hconnected : left.connected = true := (staying_moves hbefore hstays rfl).1
  have hreceived : left.received.length = count := by
    rcases hend with hnone | hlength
    · -- there is nothing more to take, so everything was taken
      have hover : left.IsOver := by
        by_contra hover
        obtain ⟨move, next, hmove, hnext⟩ := hdelivers.exists_move (by omega) hconnected hover
        cases move with
        | advance => simp [step?, hwaits] at hnext
        | receive => simp [step?, hnone] at hnext
        | leave => exact hmove rfl
      have hall := congrArg List.length (hdelivers.received_eq hconnected hover)
      simp only [Scan.items, List.length_append, List.length_map] at hall
      simp only [start, List.length_nil] at hle
      omega
    · simpa [start] using hlength
  have hleave : left.leave? = some { left with connected := false, channel := [] } := by
    simp [leave?, hconnected]
  rw [if_neg (by omega), hleave, Option.getD_some] at hread
  obtain ⟨after, _, hafter, _, hsettled⟩ :=
    settle_spec { left with connected := false, channel := [] }
  rw [← hread] at hafter hsettled
  have habandoned : Abandoned (start buffer scan) before left after
      ((start buffer scan).readSome count) :=
    ⟨hbefore, by simpa [after?, step?, hleave] using hafter⟩
  refine ⟨before, left, after, habandoned, hwaits, hreceived, ?_⟩
  by_contra hphase
  obtain ⟨next, hnext⟩ := exists_advance_of_gone habandoned.winding.1.connected hphase
  simp [hsettled] at hnext

/-- A client that goes away stops the search, and a full channel holds it back. Whatever scan the
store offers and whatever the buffer (above the largest that a channel can have there is no stream),
at whatever moment the client goes away: nothing more is received or sent, one laptop at most is
handed over in the few steps until the scan is over, which never waits again, and no more laptops
are handed over than the client has received, the channel has room, and one. Where the scan waited
or was over at that moment, and the client had taken so many laptops, the counts are exact, and the
scan says at its end that it was stopped because the client is gone exactly if there was a laptop
to be refused, or the store itself ends so. For every number of laptops there is such a client. -/
theorem abandoned_search_counts {σ : Type} {store : Store σ} {request : SearchRequest} {s s' : σ}
    {scan : Scan} (hscan : store.search (request.filter.getD {}) s = (scan, s')) (buffer : Nat) :
    (capacityFor buffer ≤ maxCapacity →
      (Service.search store buffer request s).2 = (some (start buffer scan), s')) ∧
    (∀ config : SearchConfig, config.streamBuffer = buffer →
      start config.effectiveBuffer scan = start buffer scan) ∧
    (∀ before left after final, Abandoned (start buffer scan) before left after final →
      final.received = left.received ∧ final.sent = left.sent ∧
      final.visits ≤ left.visits + 1 ∧
      final.visits ≤ min scan.laptops.length (left.received.length + max 1 buffer + 1) ∧
      after.length ≤ 2 ∧ (final.phase = .ended ∨ ∃ next, final.advance? = some next) ∧
      (left.advance? = none → left.received.length ≤ scan.laptops.length →
        final.phase = .ended →
        StoppedAfter scan left.received.length (max 1 buffer)
          (callsDuring (before ++ .leave :: after) (start buffer scan))
          (putDuring (before ++ .leave :: after) (start buffer scan)) final)) ∧
    (∀ count ≤ scan.laptops.length, ∃ before left after,
      Abandoned (start buffer scan) before left after ((start buffer scan).readSome count) ∧
      left.advance? = none ∧ left.received.length = count ∧
      ((start buffer scan).readSome count).phase = .ended) := by
  refine ⟨?_, ?_, ?_, fun count hcount => readSome_abandoned buffer scan hcount⟩
  · intro hadmitted
    simp [Service.search, hadmitted, hscan]
  · rintro config rfl
    simp [start, capacityFor, SearchConfig.effectiveBuffer, Nat.max_comm]
  · intro before left after final h
    obtain ⟨hwinding, hmoves⟩ := h.winding
    have hsent := h.sent_le
    have hbefore := h.accounts_left.visits_bounds
    have hvisits := h.accounts.visits_bounds
    have hwithin := h.accounts.within
    rw [hwinding.sent] at hvisits
    refine ⟨hwinding.received, hwinding.sent, by omega, by omega, hmoves, ?_, h.stoppedAfter⟩
    by_cases hphase : final.phase = .ended
    · exact Or.inl hphase
    · exact Or.inr (exists_advance_of_gone hwinding.connected hphase)

/-- Of four laptops a client takes one through a channel for one item, and goes away. One more was
sent and one more refused, which is what the scan says at its end. -/
theorem abandoned_search_counts_waiting :
    let scan : Scan :=
      ⟨[{ id := "a" }, { id := "b" }, { id := "c" }, { id := "d" }], .returned ()⟩
    let store : Store Unit := {
      save := fun _ _ => (.returned (), ())
      find := fun _ _ => (.returned none, ())
      search := fun _ _ => (scan, ()) }
    let request : SearchRequest := {}
    store.search (request.filter.getD {}) () = (scan, ()) ∧
      ∃ before left after final, Abandoned (start 0 scan) before left after final ∧
        left.advance? = none ∧ left.received.length ≤ scan.laptops.length ∧
        final.phase = .ended ∧ final.received = [.laptop { id := "a" }] ∧
        final.sent = 2 ∧ final.visits = 3 ∧
        .searchStopped 2 "client stopped receiving" ∈ final.events := by
  intro scan store request
  have hscan : store.search (request.filter.getD {}) () = (scan, ()) := rfl
  obtain ⟨_, _, hcounts, hclients⟩ := abandoned_search_counts hscan 0
  obtain ⟨before, left, after, h, hwaits, hcount, hended⟩ := hclients 1 (by decide)
  have hle : left.received.length ≤ scan.laptops.length := by
    rw [hcount]
    decide
  obtain ⟨_, _, _, _, _, _, hstopped⟩ := hcounts before left after _ h
  have hexact := hstopped hwaits hle hended
  rw [hcount] at hexact
  have hevent := hexact.stopped.mpr (Or.inl (by decide))
  rw [hexact.sent] at hevent
  exact ⟨hscan, before, left, after, _, h, hwaits, hle, hended, hexact.received, hexact.sent,
    hexact.visits, hevent⟩

end LaptopCatalogue.Stream
