import LaptopCatalogue.Proofs.Stream.Delivery

/-!
# Reading a search to its end

A client that takes one item after another and never goes away has read everything when it is told
that nothing more will come. In which order the scan and the client move is left open.

* `Stream.ReadsTo` says that a client has read a stream to its end.
* `Stream.ReadsTo.received_eq`: all readings of a search give the items of its scan.
* `Stream.readAll_readsTo`: `Stream.readAll` is such a reading, and its steps are enough.
-/

namespace LaptopCatalogue.Stream

/-- Whether a client that stays has read the first stream to its end, where it is the second. -/
def ReadsTo (stream final : Stream) : Prop :=
  ∃ moves, .leave ∉ moves ∧ stream.after? moves = some final ∧ final.IsOver

/-- However a search is read to its end, its items have been received. -/
theorem ReadsTo.received_eq {buffer : Nat} {scan : Scan} {final : Stream}
    (h : ReadsTo (start buffer scan) final) : final.received = scan.items := by
  obtain ⟨moves, hstays, hmoves, hover⟩ := h
  exact (delivers_after hmoves).received_eq (staying_moves hmoves hstays rfl).1 hover

theorem after?_append (before after : List Move) (stream : Stream) :
    stream.after? (before ++ after) = (stream.after? before).bind (after? after) := by
  induction before generalizing stream with
  | nil => rfl
  | cons move before ih =>
    simp only [List.cons_append, after?, Option.bind_assoc]
    congr 1
    funext next
    exact ih next

/-! ## Letting the scan go on -/

/-- How many steps the scan can take at most. -/
def advancesLeft (stream : Stream) : Nat :=
  stream.pending.length + stream.handoversLeft

theorem closing_length_le (outcome : Outcome Unit) : (Scan.closing outcome).length ≤ 1 := by
  unfold Scan.closing
  split <;> simp

theorem advancesLeft_le (stream : Stream) : stream.advancesLeft ≤ stream.stepsLeft := by
  have hclosing := closing_length_le stream.scan.ending
  unfold advancesLeft handoversLeft stepsLeft pending
  cases stream.phase with
  | scanning =>
    simp only [Scan.items, List.length_append, List.length_map]
    omega
  | sending laptop =>
    simp only [Scan.items, List.length_append, List.length_map, List.length_cons]
    omega
  | reporting error => simp
  | ended => simp

/-- Each step of the scan is one less to take. -/
theorem advancesLeft_lt {stream next : Stream} (h : stream.advance? = some next) :
    next.advancesLeft < stream.advancesLeft := by
  cases step_of_advance? h with
  | visit hphase hlaptops =>
    simp only [advancesLeft, handoversLeft, pending, hphase, hlaptops, Scan.items,
      List.length_append, List.length_map, List.length_cons]
    omega
  | finish hphase hlaptops =>
    simp only [advancesLeft, finish_pending, finish_handoversLeft]
    simp [handoversLeft, pending, hphase, hlaptops, Scan.items]
  | refuse hphase _ =>
    simp only [advancesLeft, finish_pending, finish_handoversLeft, Scan.closing, List.length_nil]
    simp only [handoversLeft, hphase]
    omega
  | send hphase _ _ => simp [advancesLeft, handoversLeft, pending, hphase]
  | keepBack hphase _ => simp [advancesLeft, handoversLeft, pending, hphase, close]
  | report hphase _ _ => simp [advancesLeft, handoversLeft, pending, hphase, close]

theorem advance?_received {stream next : Stream} (h : stream.advance? = some next) :
    next.received = stream.received := by
  cases step_of_advance? h with
  | visit _ _ => rfl
  | finish _ _ => simp
  | refuse _ _ => simp
  | send _ _ _ => rfl
  | keepBack _ _ => rfl
  | report _ _ _ => rfl

/-- Settling only advances the scan, and with steps enough the scan waits or has ended. -/
theorem settleWithin_spec (fuel : Nat) (stream : Stream) :
    ∃ moves, .leave ∉ moves ∧ stream.after? moves = some (settleWithin fuel stream) ∧
      (settleWithin fuel stream).received = stream.received ∧
      (stream.advancesLeft ≤ fuel → (settleWithin fuel stream).advance? = none) := by
  induction fuel generalizing stream with
  | zero =>
    refine ⟨[], by simp, rfl, rfl, ?_⟩
    -- a step would need fuel of its own
    intro hfuel
    cases hadvance : stream.advance? with
    | none => exact hadvance
    | some next =>
      have hless := advancesLeft_lt hadvance
      omega
  | succ fuel ih =>
    cases hadvance : stream.advance? with
    | none =>
      simp only [settleWithin, hadvance]
      exact ⟨[], by simp, rfl, trivial, fun _ => trivial⟩
    | some next =>
      obtain ⟨moves, hstays, hmoves, hreceived, hsettled⟩ := ih next
      simp only [settleWithin, hadvance]
      refine ⟨.advance :: moves, by simpa using hstays, ?_, ?_, ?_⟩
      · simpa [after?, step?, hadvance] using hmoves
      · rw [hreceived, advance?_received hadvance]
      · intro hfuel
        have hless := advancesLeft_lt hadvance
        exact hsettled (by omega)

theorem settle_spec (stream : Stream) :
    ∃ moves, .leave ∉ moves ∧ stream.after? moves = some stream.settle ∧
      stream.settle.received = stream.received ∧ stream.settle.advance? = none := by
  obtain ⟨moves, hstays, hmoves, hreceived, hsettled⟩ :=
    settleWithin_spec stream.stepsLeft stream
  exact ⟨moves, hstays, hmoves, hreceived, hsettled (advancesLeft_le stream)⟩

/-! ## Taking items -/

theorem receive?_received {stream next : Stream} (h : stream.receive? = some next) :
    next.received.length = stream.received.length + 1 := by
  have hstep : Step stream .receive next := step_of_step? h
  cases hstep with
  | receive _ _ => simp

/-- A client that takes items stops with the scan waiting or ended, when it has as many as it wanted
or there is none to take. -/
theorem receiveWithin_spec (wanted : Nat) (stream : Stream) :
    ∃ moves, .leave ∉ moves ∧ stream.after? moves = some (receiveWithin wanted stream) ∧
      (receiveWithin wanted stream).advance? = none ∧
      ((receiveWithin wanted stream).receive? = none ∨
        (receiveWithin wanted stream).received.length = stream.received.length + wanted) := by
  induction wanted generalizing stream with
  | zero =>
    obtain ⟨moves, hstays, hmoves, hreceived, hsettled⟩ := settle_spec stream
    exact ⟨moves, hstays, hmoves, hsettled, Or.inr (by simp [receiveWithin, hreceived])⟩
  | succ wanted ih =>
    obtain ⟨moves, hstays, hmoves, hreceived, hsettled⟩ := settle_spec stream
    cases hreceive : stream.settle.receive? with
    | none =>
      simp only [receiveWithin, hreceive]
      exact ⟨moves, hstays, hmoves, hsettled, Or.inl trivial⟩
    | some next =>
      obtain ⟨rest, hstays', hrest, hsettled', hend⟩ := ih next
      have hcount := receive?_received hreceive
      simp only [receiveWithin, hreceive]
      refine ⟨moves ++ .receive :: rest, ?_, ?_, hsettled', ?_⟩
      · simp [hstays, hstays']
      · simp [after?_append, hmoves, after?, step?, hreceive, hrest]
      · rcases hend with hnone | hlength
        · exact Or.inl hnone
        · right
          rw [hlength, hcount, hreceived]
          omega

/-- The client that takes everything reads every search to its end: one item for each laptop and one
for a failure are all there are. -/
theorem readAll_readsTo (buffer : Nat) (scan : Scan) :
    ReadsTo (start buffer scan) (start buffer scan).readAll := by
  obtain ⟨moves, hstays, hmoves, hsettled, hend⟩ :=
    receiveWithin_spec ((start buffer scan).scan.laptops.length + 1) (start buffer scan)
  refine ⟨moves, hstays, hmoves, ?_⟩
  change (start buffer scan).after? moves = some (start buffer scan).readAll at hmoves
  change (start buffer scan).readAll.advance? = none at hsettled
  have hdelivers := delivers_after hmoves
  have hconnected : (start buffer scan).readAll.connected = true :=
    (staying_moves hmoves hstays rfl).1
  have hnone : (start buffer scan).readAll.receive? = none := by
    rcases hend with hnone | hlength
    · exact hnone
    · -- as many items as a scan can have: the channel is empty
      have hprefix := hdelivers.received_append_channel.length_le
      have hclosing := closing_length_le scan.ending
      change (start buffer scan).readAll.received.length = 0 + (scan.laptops.length + 1) at hlength
      simp only [List.length_append, Scan.items, List.length_map] at hprefix
      have hchannel : (start buffer scan).readAll.channel = [] :=
        List.length_eq_zero_iff.mp (by omega)
      simp [receive?, hchannel]
  -- neither part can go on, so the client has been told that nothing more will come
  by_contra hover
  obtain ⟨move, next, hmove, hnext⟩ := hdelivers.exists_move (by omega) hconnected hover
  cases move with
  | advance => simp [step?, hsettled] at hnext
  | receive => simp [step?, hnone] at hnext
  | leave => exact hmove rfl

end LaptopCatalogue.Stream
