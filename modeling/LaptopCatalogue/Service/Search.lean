import LaptopCatalogue.Laptop.Requests
import LaptopCatalogue.Store.Basic
import LaptopCatalogue.Service.Status
import LaptopCatalogue.Service.Event

/-!
# Streaming searches

A search runs in two parts that go at their own pace. The scan asks the store for laptops and puts
each into a channel of limited capacity, waiting while the channel is full. The client takes them
out, and may go away at any time; the next laptop is then refused, which ends the scan.

The two parts together are a transition system. `Stream` is its state, `Move` tells which part goes
on, and `Stream.step?` is the one step of that part, if it is not waiting. Every order of moves is
possible; `Stream.readAll` and `Stream.readSome` are two clients.
-/

namespace LaptopCatalogue

/-- What travels to the client. A failure is always the last. -/
inductive Item where
  | laptop (laptop : Laptop)
  | failure (status : Status)
deriving DecidableEq, Repr

/-- Where the scan stands. -/
inductive Phase where
  /-- The store is about to hand over the next laptop, or to end. -/
  | scanning
  /-- A laptop was handed over and is to be put into the channel. -/
  | sending (laptop : Laptop)
  /-- The store failed, and the client is to be told. -/
  | reporting (error : StoreError)
  | ended
deriving DecidableEq, Repr

/-- A running search. -/
structure Stream where
  /-- How many items the channel holds at most. -/
  capacity : Nat
  /-- The laptops that the store has not handed over yet, and how it will end after them. -/
  scan : Scan
  phase : Phase := .scanning
  /-- The items in the channel, the next one first. -/
  channel : List Item := []
  /-- The items that the client has taken. -/
  received : List Item := []
  /-- Whether the client is still there. -/
  connected : Bool := true
  /-- How many laptops the store has handed over. -/
  visits : Nat := 0
  /-- How many laptops were put into the channel. -/
  sent : Nat := 0
  events : List Event := []
deriving DecidableEq, Repr

/-- Which part of a search goes on. -/
inductive Move where
  /-- The scan does its next step. -/
  | advance
  | receive
  | leave
deriving DecidableEq, Repr

namespace Stream

def operation : String := "search_laptop_scan"

/-- Why the scan stops when the client is gone. -/
def clientGone : String := "client stopped receiving"

/-- The largest channel that can be made. -/
def maxCapacity : Nat := Nat.pow 2 61 - 1

/-- The capacity of the channel for a configured buffer. A channel holds one item at least. -/
def capacityFor (buffer : Nat) : Nat := max 1 buffer

def start (buffer : Nat) (scan : Scan) : Stream where
  capacity := capacityFor buffer
  scan := scan

/-- Ends the scan with its last events. -/
def close (stream : Stream) (events : List Event) : Stream :=
  { stream with phase := .ended, events := stream.events ++ events ++ [.completed operation] }

/-- What follows when the store's search ends: a client that asked to stop need not be told, other
failures are reported, and a scan that aborted says nothing. -/
def finish (stream : Stream) : Outcome Unit → Stream
  | .returned () => stream.close [.searchFinished stream.sent]
  | .failed (.cancelled reason) => stream.close [.searchStopped stream.sent reason]
  | .failed error =>
    { stream with
      phase := .reporting error
      events := stream.events ++ [.searchFailed stream.sent error] }
  | .aborted _ => stream.close []

def hasRoom (stream : Stream) : Bool := stream.channel.length < stream.capacity

def advance? (stream : Stream) : Option Stream :=
  match stream.phase with
  | .scanning =>
    match stream.scan.laptops with
    | [] => some (stream.finish stream.scan.ending)
    | laptop :: rest =>
      some { stream with
        scan := { stream.scan with laptops := rest }
        phase := .sending laptop
        visits := stream.visits + 1 }
  | .sending laptop =>
    if !stream.connected then some (stream.finish (.failed (.cancelled clientGone)))
    else if stream.hasRoom then
      some { stream with
        phase := .scanning
        channel := stream.channel ++ [.laptop laptop]
        sent := stream.sent + 1
        events := stream.events ++ [.sent laptop.id] }
    else none
  | .reporting error =>
    if !stream.connected then some (stream.close [.failureUndelivered])
    else if stream.hasRoom then
      let stream := { stream with
        channel := stream.channel ++ [Item.failure (error.status "cannot search laptops")] }
      some (stream.close [])
    else none
  | .ended => none

def receive? (stream : Stream) : Option Stream :=
  match stream.connected, stream.channel with
  | true, item :: rest =>
    some { stream with channel := rest, received := stream.received ++ [item] }
  | _, _ => none

/-- The client goes away, and with it what is in the channel. -/
def leave? (stream : Stream) : Option Stream :=
  if stream.connected then some { stream with connected := false, channel := [] } else none

/-- One step of one part, if that part need not wait. -/
def step? : Move → Stream → Option Stream
  | .advance => advance?
  | .receive => receive?
  | .leave => leave?

/-! ## Two clients -/

/-- More steps than a scan can still take. -/
def stepsLeft (stream : Stream) : Nat := 2 * stream.scan.laptops.length + 4

/-- Lets the scan go on until it waits or ends, in at most the given number of steps. -/
def settleWithin : Nat → Stream → Stream
  | 0, stream => stream
  | fuel + 1, stream =>
    match stream.advance? with
    | some next => settleWithin fuel next
    | none => stream

/-- Lets the scan go on until it waits or ends. -/
def settle (stream : Stream) : Stream := settleWithin stream.stepsLeft stream

/-- Lets a client take items until none is left or it has the given number, where the scan is never
kept waiting. -/
def receiveWithin : Nat → Stream → Stream
  | 0, stream => stream.settle
  | wanted + 1, stream =>
    let settled := stream.settle
    match settled.receive? with
    | some next => receiveWithin wanted next
    | none => settled

/-- A client that takes everything. One item for each laptop and one more for a failure is all
there is. -/
def readAll (stream : Stream) : Stream :=
  receiveWithin (stream.scan.laptops.length + 1) stream

/-- A client that takes the given number of items and goes away when the scan is waiting or over.
It stays if there are fewer items. -/
def readSome (count : Nat) (stream : Stream) : Stream :=
  let stream := stream.receiveWithin count
  if stream.received.length < count then stream
  else (stream.leave?.getD stream).settle

end Stream

namespace Service

/-- Starts a search for the request: its first event and the stream. Without a filter every laptop
is found. A channel of the capacity that is asked for may be too large; then there is no stream, the
call aborts, and the store is never asked. -/
def search {σ : Type} (store : Store σ) (buffer : Nat) (request : SearchRequest) (s : σ) :
    Event × Option Stream × σ :=
  let filter := request.filter.getD {}
  if Stream.capacityFor buffer ≤ Stream.maxCapacity then
    let (scan, s) := store.search filter s
    (.searchReceived filter, some (Stream.start buffer scan), s)
  else (.searchReceived filter, none, s)

section

variable {σ : Type} (store : Store σ) {buffer : Nat} (request : SearchRequest) (s : σ)

/-- Over a channel that can be made, the store is asked once and its scan streamed. -/
theorem search_of_admitted (h : Stream.capacityFor buffer ≤ Stream.maxCapacity) :
    search store buffer request s =
      (.searchReceived (request.filter.getD {}),
        some (Stream.start buffer (store.search (request.filter.getD {}) s).1),
        (store.search (request.filter.getD {}) s).2) := by
  simp only [search, h, if_true]

/-- Over a channel that cannot be made, nothing is streamed and the store is not asked. -/
theorem search_of_not_admitted (h : ¬Stream.capacityFor buffer ≤ Stream.maxCapacity) :
    search store buffer request s =
      (.searchReceived (request.filter.getD {}), none, s) := by
  simp only [search, h, if_false]

end

end Service

end LaptopCatalogue
