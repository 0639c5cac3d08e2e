import Mathlib.Data.List.Infix
import LaptopCatalogue.Service.Search

/-!
# What a search delivers

Whatever the order in which the scan and the client of a search move, the client is given the items
of the scan in their order. The invariant is one equation: while the client is there, what it has
received, what is in the channel and what the scan has yet to send make up the items of the scan.

* `Scan.items` are the items of a scan: its laptops, and a failure if it ends in one that a client
  is told of.
* `Stream.Step` lists the steps of a stream; every proof about moves is by its cases.
* `Stream.Delivers` is the invariant, `Stream.movesLeft` counts what remains to be done.
* `Stream.search_delivers_items` is the statement about every search of every store.
-/

namespace LaptopCatalogue

namespace Scan

/-- What a client is told of the end of a search. A search that was cancelled and one that aborted
end without a word. -/
def closing : Outcome Unit → List Item
  | .failed (.cancelled _) => []
  | .failed error => [.failure (error.status "cannot search laptops")]
  | .returned () | .aborted _ => []

/-- All that a client is given that stays to the end. -/
def items (scan : Scan) : List Item := scan.laptops.map .laptop ++ closing scan.ending

/-- A receiver that keeps every laptop. -/
def keep (laptop : Laptop) (kept : List Laptop) : Except StoreError Unit × List Laptop :=
  (.ok (), kept ++ [laptop])

theorem handOver_keep (laptops kept : List Laptop) :
    handOver keep laptops kept = (.ok (), kept ++ laptops) := by
  induction laptops generalizing kept with
  | nil => simp [handOver]
  | cons laptop laptops ih => simp [handOver, keep, ih]

/-- The items are those of the search in one go, with a receiver that keeps every laptop. -/
theorem run_keep (scan : Scan) : scan.run keep [] = (scan.ending, scan.laptops) :=
  run_of_accepted (by simpa using handOver_keep scan.laptops [])

end Scan

namespace Stream

/-! ## Steps -/

/-- The stream after moves, if each of them can be made in its turn. -/
def after? : List Move → Stream → Option Stream
  | [], stream => some stream
  | move :: moves, stream => (stream.step? move).bind (after? moves)

inductive Step (stream : Stream) : Move → Stream → Prop where
  /-- The store hands over the next laptop. -/
  | visit {laptop : Laptop} {rest : List Laptop} (hphase : stream.phase = .scanning)
      (hlaptops : stream.scan.laptops = laptop :: rest) :
      Step stream .advance
        { stream with
          scan := { stream.scan with laptops := rest }
          phase := .sending laptop
          visits := stream.visits + 1 }
  /-- The store has handed over all laptops. -/
  | finish (hphase : stream.phase = .scanning) (hlaptops : stream.scan.laptops = []) :
      Step stream .advance (stream.finish stream.scan.ending)
  /-- A laptop is refused because the client is gone. -/
  | refuse {laptop : Laptop} (hphase : stream.phase = .sending laptop)
      (hgone : stream.connected = false) :
      Step stream .advance (stream.finish (.failed (.cancelled clientGone)))
  /-- A laptop is put into the channel. -/
  | send {laptop : Laptop} (hphase : stream.phase = .sending laptop)
      (hconnected : stream.connected = true) (hroom : stream.channel.length < stream.capacity) :
      Step stream .advance
        { stream with
          phase := .scanning
          channel := stream.channel ++ [.laptop laptop]
          sent := stream.sent + 1
          events := stream.events ++ [.sent laptop.id] }
  /-- A failure is kept back because the client is gone. -/
  | keepBack {error : StoreError} (hphase : stream.phase = .reporting error)
      (hgone : stream.connected = false) :
      Step stream .advance (stream.close [.failureUndelivered])
  /-- A failure is put into the channel. -/
  | report {error : StoreError} (hphase : stream.phase = .reporting error)
      (hconnected : stream.connected = true) (hroom : stream.channel.length < stream.capacity) :
      Step stream .advance
        (close
          { stream with
            channel := stream.channel ++ [.failure (error.status "cannot search laptops")] } [])
  | receive {item : Item} {rest : List Item} (hconnected : stream.connected = true)
      (hchannel : stream.channel = item :: rest) :
      Step stream .receive { stream with channel := rest, received := stream.received ++ [item] }
  | leave (hconnected : stream.connected = true) :
      Step stream .leave { stream with connected := false, channel := [] }

theorem step_of_advance? {stream next : Stream} (h : stream.advance? = some next) :
    Step stream .advance next := by
  unfold advance? at h
  split at h
  · -- the store goes on: there is a next laptop or there is none
    rename_i hphase
    split at h
    · rename_i hlaptops
      cases h
      exact .finish hphase hlaptops
    · rename_i hlaptops
      cases h
      exact .visit hphase hlaptops
  · -- a laptop is to be sent; without room the scan waits
    rename_i hphase
    split at h
    · rename_i hgone
      cases h
      exact .refuse hphase (by simpa using hgone)
    · rename_i hconnected
      split at h
      · rename_i hroom
        cases h
        exact .send hphase (by simpa using hconnected) (by simpa [hasRoom] using hroom)
      · cases h
  · -- a failure is to be sent
    rename_i hphase
    split at h
    · rename_i hgone
      cases h
      exact .keepBack hphase (by simpa using hgone)
    · rename_i hconnected
      split at h
      · rename_i hroom
        cases h
        exact .report hphase (by simpa using hconnected) (by simpa [hasRoom] using hroom)
      · cases h
  · cases h

/-- Every move that can be made is one of the steps. -/
theorem step_of_step? {stream next : Stream} {move : Move} (h : stream.step? move = some next) :
    Step stream move next := by
  cases move with
  | advance => exact step_of_advance? h
  | receive =>
    simp only [step?, receive?] at h
    split at h
    · rename_i hconnected hchannel
      cases h
      exact .receive hconnected hchannel
    · cases h
  | leave =>
    simp only [step?, leave?] at h
    split at h
    · rename_i hconnected
      cases h
      exact .leave hconnected
    · cases h

/-- What every step keeps, moves keep. -/
theorem after?_induction {P : Stream → Prop}
    (hstep : ∀ {stream next move}, Step stream move next → P stream → P next)
    {moves : List Move} {stream final : Stream} (h : stream.after? moves = some final)
    (hstart : P stream) : P final := by
  induction moves generalizing stream with
  | nil =>
    cases h
    exact hstart
  | cons move moves ih =>
    obtain ⟨next, hnext, hrest⟩ := Option.bind_eq_some_iff.mp h
    exact ih hrest (hstep (step_of_step? hnext) hstart)

/-! ## The end of the scan -/

section

variable (stream : Stream) (events : List Event) (outcome : Outcome Unit)

@[simp] theorem close_capacity : (stream.close events).capacity = stream.capacity := rfl

@[simp] theorem close_channel : (stream.close events).channel = stream.channel := rfl

@[simp] theorem close_received : (stream.close events).received = stream.received := rfl

@[simp] theorem close_connected : (stream.close events).connected = stream.connected := rfl

@[simp] theorem close_phase : (stream.close events).phase = .ended := rfl

/-- The end of the scan leaves the channel and the client alone. -/
theorem finish_frame :
    (stream.finish outcome).capacity = stream.capacity ∧
    (stream.finish outcome).channel = stream.channel ∧
    (stream.finish outcome).received = stream.received ∧
    (stream.finish outcome).connected = stream.connected := by
  unfold finish
  split <;> simp

@[simp] theorem finish_capacity : (stream.finish outcome).capacity = stream.capacity :=
  (finish_frame stream outcome).1

@[simp] theorem finish_channel : (stream.finish outcome).channel = stream.channel :=
  (finish_frame stream outcome).2.1

@[simp] theorem finish_received : (stream.finish outcome).received = stream.received :=
  (finish_frame stream outcome).2.2.1

@[simp] theorem finish_connected : (stream.finish outcome).connected = stream.connected :=
  (finish_frame stream outcome).2.2.2

end

/-- The items that the scan has yet to put into the channel. -/
def pending (stream : Stream) : List Item :=
  match stream.phase with
  | .scanning => stream.scan.items
  | .sending laptop => .laptop laptop :: stream.scan.items
  | .reporting error => [.failure (error.status "cannot search laptops")]
  | .ended => []

/-- What is pending at the end of the scan is what the client is told of it. -/
@[simp] theorem finish_pending (stream : Stream) (outcome : Outcome Unit) :
    (stream.finish outcome).pending = Scan.closing outcome := by
  cases outcome with
  | returned _ => rfl
  | failed error =>
    cases error with
    | cancelled _ => rfl
    | alreadyExists _ => rfl
    | emptyId => rfl
    | lockPoisoned _ => rfl
  | aborted _ => rfl

/-! ## The invariant -/

/-- While the client is there, what it has received, the channel and what is pending make up the
items. Once it is gone the channel stays empty, and what it has received are the first of them. -/
structure Delivers (items : List Item) (capacity : Nat) (stream : Stream) : Prop where
  conserved : stream.connected = true →
    stream.received ++ stream.channel ++ stream.pending = items
  gone : stream.connected = false → stream.channel = [] ∧ stream.received <+: items
  fits : stream.channel.length ≤ stream.capacity
  capacity_eq : stream.capacity = capacity

theorem delivers_start (buffer : Nat) (scan : Scan) :
    Delivers scan.items (max 1 buffer) (start buffer scan) := by
  constructor
  · intro _
    rfl
  · intro hgone
    cases hgone
  · exact Nat.zero_le _
  · rfl

theorem Delivers.step {items : List Item} {capacity : Nat} {stream next : Stream} {move : Move}
    (h : Delivers items capacity stream) (hstep : Step stream move next) :
    Delivers items capacity next := by
  cases hstep with
  | visit hphase hlaptops =>
    refine ⟨?_, h.gone, h.fits, h.capacity_eq⟩
    intro hconnected
    simpa [pending, hphase, Scan.items, hlaptops] using h.conserved hconnected
  | finish hphase hlaptops =>
    refine ⟨?_, by simpa using h.gone, by simpa using h.fits, by simpa using h.capacity_eq⟩
    intro hconnected
    have hpending : stream.pending = Scan.closing stream.scan.ending := by
      simp [pending, hphase, Scan.items, hlaptops]
    rw [finish_pending, ← hpending]
    simpa using h.conserved (by simpa using hconnected)
  | refuse hphase hgone =>
    refine ⟨?_, by simpa using h.gone, by simpa using h.fits, by simpa using h.capacity_eq⟩
    intro hconnected
    simp [hgone] at hconnected
  | send hphase hconnected hroom =>
    refine ⟨?_, ?_, by rw [List.length_append]; exact hroom, h.capacity_eq⟩
    · intro _
      simpa [pending, hphase] using h.conserved hconnected
    · intro hgone
      simp [hconnected] at hgone
  | keepBack hphase hgone =>
    refine ⟨?_, h.gone, h.fits, h.capacity_eq⟩
    intro hconnected
    simp [hgone] at hconnected
  | report hphase hconnected hroom =>
    refine ⟨?_, ?_, by rw [close_channel, List.length_append]; exact hroom, h.capacity_eq⟩
    · intro _
      simpa [pending, hphase] using h.conserved hconnected
    · intro hgone
      simp [hconnected] at hgone
  | receive hconnected hchannel =>
    have hfits : stream.channel.length ≤ stream.capacity := h.fits
    rw [hchannel, List.length_cons] at hfits
    refine ⟨?_, ?_, Nat.le_of_succ_le hfits, h.capacity_eq⟩
    · intro _
      simpa [pending, hchannel] using h.conserved hconnected
    · intro hgone
      simp [hconnected] at hgone
  | leave hconnected =>
    refine ⟨?_, ?_, Nat.zero_le _, h.capacity_eq⟩
    · intro hconnected'
      cases hconnected'
    · intro _
      refine ⟨rfl, ?_⟩
      -- the channel goes away with the client; what it had received before stays a prefix
      rw [← h.conserved hconnected, List.append_assoc]
      exact List.prefix_append _ _

/-- All moves from the beginning of a search keep the invariant. -/
theorem delivers_after {buffer : Nat} {scan : Scan} {moves : List Move} {stream : Stream}
    (h : (start buffer scan).after? moves = some stream) :
    Delivers scan.items (max 1 buffer) stream :=
  after?_induction (fun hstep hdelivers => hdelivers.step hstep) h (delivers_start buffer scan)

/-- What was received and what is in the channel are the first items. -/
theorem Delivers.received_append_channel {items : List Item} {capacity : Nat} {stream : Stream}
    (h : Delivers items capacity stream) : stream.received ++ stream.channel <+: items := by
  cases hconnected : stream.connected with
  | true =>
    rw [← h.conserved hconnected]
    exact List.prefix_append _ _
  | false =>
    obtain ⟨hchannel, hprefix⟩ := h.gone hconnected
    simpa [hchannel] using hprefix

/-! ## Progress -/

/-- Nothing more will come: a client that asks for the next item is told so. -/
def IsOver (stream : Stream) : Prop := stream.phase = .ended ∧ stream.channel = []

/-- A client that is told that nothing more will come has received everything. -/
theorem Delivers.received_eq {items : List Item} {capacity : Nat} {stream : Stream}
    (h : Delivers items capacity stream) (hconnected : stream.connected = true)
    (hover : stream.IsOver) : stream.received = items := by
  simpa [pending, hover.1, hover.2] using h.conserved hconnected

/-- While the client is there and has not been told that nothing more will come, one of the two
parts can go on: with an empty channel there is room, since a channel holds one item at least. -/
theorem Delivers.exists_move {items : List Item} {capacity : Nat} {stream : Stream}
    (h : Delivers items capacity stream) (hcapacity : 0 < capacity)
    (hconnected : stream.connected = true) (hover : ¬stream.IsOver) :
    ∃ move next, move ≠ .leave ∧ stream.step? move = some next := by
  cases hchannel : stream.channel with
  | cons item rest =>
    exact ⟨.receive, _, by simp, by simp [step?, receive?, hconnected, hchannel]; rfl⟩
  | nil =>
    -- the scan is not kept waiting
    have hroom : stream.hasRoom = true := by
      simp [hasRoom, hchannel, h.capacity_eq, hcapacity]
    have hadvance : ∃ next, stream.advance? = some next := by
      cases hphase : stream.phase with
      | scanning =>
        cases hlaptops : stream.scan.laptops with
        | nil => simp [advance?, hphase, hlaptops]
        | cons laptop rest => simp [advance?, hphase, hlaptops]
      | sending laptop => simp [advance?, hphase, hconnected, hroom]
      | reporting error => simp [advance?, hphase, hconnected, hroom]
      | ended => exact absurd ⟨hphase, hchannel⟩ hover
    obtain ⟨next, hnext⟩ := hadvance
    exact ⟨.advance, next, by simp, hnext⟩

/-- How often the store has yet to hand over a laptop or to end. -/
def handoversLeft (stream : Stream) : Nat :=
  match stream.phase with
  | .scanning | .sending _ => stream.scan.laptops.length + 1
  | .reporting _ | .ended => 0

@[simp] theorem finish_handoversLeft (stream : Stream) (outcome : Outcome Unit) :
    (stream.finish outcome).handoversLeft = 0 := by
  cases outcome with
  | returned _ => rfl
  | failed error => cases error <;> rfl
  | aborted _ => rfl

/-- How many moves remain for the scan and a client that stays: each laptop is handed over, sent and
received, a failure is sent and received, and the scan ends once. -/
def movesLeft (stream : Stream) : Nat :=
  stream.channel.length + 2 * stream.pending.length + stream.handoversLeft

/-- While the client is there, each move but its leaving is one less to make. -/
theorem movesLeft_step {stream next : Stream} {move : Move} (hstep : Step stream move next)
    (hconnected : stream.connected = true) (hstays : move ≠ .leave) :
    next.connected = true ∧ next.movesLeft + 1 = stream.movesLeft := by
  cases hstep with
  | visit hphase hlaptops =>
    refine ⟨hconnected, ?_⟩
    simp only [movesLeft, handoversLeft, pending, hphase, hlaptops, Scan.items,
      List.length_append, List.length_map, List.length_cons]
    omega
  | finish hphase hlaptops =>
    refine ⟨by simpa using hconnected, ?_⟩
    simp only [movesLeft, finish_channel, finish_pending, finish_handoversLeft]
    simp [handoversLeft, pending, hphase, hlaptops, Scan.items]
  | refuse hphase hgone => simp [hconnected] at hgone
  | send hphase _ hroom =>
    refine ⟨hconnected, ?_⟩
    simp only [movesLeft, handoversLeft, pending, hphase, List.length_append, List.length_cons,
      List.length_nil]
    omega
  | keepBack hphase hgone => simp [hconnected] at hgone
  | report hphase _ hroom =>
    refine ⟨hconnected, ?_⟩
    simp [movesLeft, handoversLeft, pending, hphase, close]
  | receive _ hchannel =>
    refine ⟨hconnected, ?_⟩
    simp only [movesLeft, handoversLeft, pending, hchannel, List.length_cons]
    omega
  | leave _ => exact absurd rfl hstays

/-- A client that stays is there to the end, and the moves made and left add up to those at the
beginning. -/
theorem staying_moves {moves : List Move} {stream final : Stream}
    (h : stream.after? moves = some final) (hstays : .leave ∉ moves)
    (hconnected : stream.connected = true) :
    final.connected = true ∧ moves.length + final.movesLeft = stream.movesLeft := by
  induction moves generalizing stream with
  | nil =>
    cases h
    simp [hconnected]
  | cons move moves ih =>
    obtain ⟨next, hnext, hrest⟩ := Option.bind_eq_some_iff.mp h
    rw [List.mem_cons, not_or] at hstays
    obtain ⟨hconnected', hleft⟩ :=
      movesLeft_step (step_of_step? hnext) hconnected (Ne.symm hstays.1)
    obtain ⟨hfinal, hcount⟩ := ih hrest hstays.2 hconnected'
    refine ⟨hfinal, ?_⟩
    rw [List.length_cons]
    omega

theorem movesLeft_start (buffer : Nat) (scan : Scan) :
    (start buffer scan).movesLeft = 2 * scan.items.length + scan.laptops.length + 1 := by
  simp [movesLeft, handoversLeft, pending, start, Nat.add_assoc]

/-- A streamed search gives the client the items of the search in one go. Whatever scan the store
offers and whatever the buffer (above the largest that a channel can have there is no stream), after
any moves of scan and client the client has received the first items, the channel holds the next
ones, and no more than it has room for. With a client that stays there is an end to the moves; until
it is told that nothing more will come, one of the two can go on; and when it is told, it has
received all items. -/
theorem search_delivers_items {σ : Type} {store : Store σ} {request : SearchRequest} {s s' : σ}
    {scan : Scan} (hscan : store.search (request.filter.getD {}) s = (scan, s')) (buffer : Nat)
    {moves : List Move} {stream : Stream}
    (hmoves : (start buffer scan).after? moves = some stream) :
    (capacityFor buffer ≤ maxCapacity →
      (Service.search store buffer request s).2 = (some (start buffer scan), s')) ∧
    scan.run Scan.keep [] = (scan.ending, scan.laptops) ∧
    stream.received <+: scan.items ∧
    stream.received ++ stream.channel <+: scan.items ∧
    stream.channel.length ≤ max 1 buffer ∧
    (.leave ∉ moves →
      moves.length ≤ 2 * scan.items.length + scan.laptops.length + 1 ∧
      (stream.IsOver ∨ ∃ move next, move ≠ .leave ∧ stream.step? move = some next) ∧
      (stream.IsOver → stream.received = scan.items)) := by
  have hdelivers : Delivers scan.items (max 1 buffer) stream := delivers_after hmoves
  refine ⟨?_, scan.run_keep, ?_, hdelivers.received_append_channel, ?_, ?_⟩
  · intro hadmitted
    simp [Service.search, hadmitted, hscan]
  · exact (List.prefix_append _ _).trans hdelivers.received_append_channel
  · exact hdelivers.capacity_eq ▸ hdelivers.fits
  · intro hstays
    obtain ⟨hconnected, hcount⟩ := staying_moves hmoves hstays rfl
    rw [movesLeft_start] at hcount
    refine ⟨by omega, ?_, hdelivers.received_eq hconnected⟩
    by_cases hover : stream.IsOver
    · exact Or.inl hover
    · exact Or.inr (hdelivers.exists_move (by omega) hconnected hover)

/-- Two laptops and a failure go through a channel for one item. -/
theorem search_delivers_items_failing :
    let scan : Scan := ⟨[{ id := "a" }, { id := "b" }], .failed (.lockPoisoned "search")⟩
    let store : Store Unit := {
      save := fun _ _ => (.returned (), ())
      find := fun _ _ => (.returned none, ())
      search := fun _ _ => (scan, ()) }
    let request : SearchRequest := {}
    let moves : List Move :=
      [.advance, .advance, .advance, .receive, .advance, .receive, .advance, .advance, .receive]
    store.search (request.filter.getD {}) () = (scan, ()) ∧ capacityFor 0 ≤ maxCapacity ∧
      .leave ∉ moves ∧
      ∃ stream, (start 0 scan).after? moves = some stream ∧ stream.IsOver ∧
        (Service.search store 0 request ()).2 = (some (start 0 scan), ()) ∧
        stream.received = scan.items := by
  intro scan store request moves
  have hscan : store.search (request.filter.getD {}) () = (scan, ()) := rfl
  have hadmitted : capacityFor 0 ≤ maxCapacity := by decide
  have hstays : .leave ∉ moves := by decide
  obtain ⟨stream, hmoves, hover⟩ :
      ∃ stream, (start 0 scan).after? moves = some stream ∧ stream.IsOver :=
    ⟨_, rfl, rfl, rfl⟩
  obtain ⟨hsearch, _, _, _, _, hend⟩ := search_delivers_items hscan 0 hmoves
  exact ⟨hscan, hadmitted, hstays, stream, hmoves, hover, hsearch hadmitted,
    (hend hstays).2.2 hover⟩

end Stream

end LaptopCatalogue
