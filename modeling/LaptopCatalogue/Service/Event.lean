import LaptopCatalogue.Laptop.Description
import LaptopCatalogue.Logging.Level
import LaptopCatalogue.Store.Error

/-!
# The log of the service

What the service writes to its log, as values: each event has a level, a text, and named fields.

* `Event.heading`: the words by which a reader of the log knows an event.
* `Event.line`: an event as it is written; `Event.under`: what a log has under one heading.
-/

namespace LaptopCatalogue

inductive Event where
  /-- A record to be stored has come in. -/
  | createReceived (id : String)
  /-- There are no random bytes for the id of a record. -/
  | entropyUnread (cause : String)
  | saved (id : String)
  | saveFailed (id : String) (error : StoreError)
  | lookedUp (id : String) (found : Bool)
  | searchReceived (filter : Filter)
  /-- A search has passed a record on to the client. -/
  | sent (id : String)
  | searchFinished (count : Nat)
  /-- A search was stopped by its consumer. -/
  | searchStopped (count : Nat) (reason : String)
  | searchFailed (count : Nat) (error : StoreError)
  /-- Nobody was there to be told that a search failed. -/
  | failureUndelivered
  | completed (operation : String)
  | callStarted (service method : String)
  | callCompleted (service method status : String)
deriving DecidableEq, Repr

namespace Event

def level : Event → Level
  | .entropyUnread _ | .saveFailed .. | .searchFailed .. => .warn
  | .lookedUp .. | .sent .. | .failureUndelivered => .debug
  | _ => .info

/-- The words that the text of an event begins with, and by which a reader of the log knows it. -/
def heading : Event → String
  | .createReceived _ => "receive a create-laptop request"
  | .entropyUnread _ => "cannot read random bytes for a laptop ID"
  | .saved _ => "saved laptop"
  | .saveFailed .. => "cannot save laptop"
  | .lookedUp .. => "find laptop"
  | .searchReceived _ => "receive a search-laptop request"
  | .sent _ => "sent laptop"
  | .searchFinished _ => "search-laptop finished"
  | .searchStopped .. => "search-laptop stopped early"
  | .searchFailed .. => "search-laptop failed"
  | .failureUndelivered => "client went away before the search error was delivered"
  | .completed _ => "Operation completed"
  | .callStarted .. => "gRPC request started"
  | .callCompleted .. => "gRPC request completed"

/-- The text of an event. A failure is told in the words of where it happened. -/
def message (event : Event) : String :=
  match event with
  | .entropyUnread cause => s!"{event.heading}: {cause}"
  | .saveFailed _ error | .searchFailed _ error => s!"{event.heading}: {error.message}"
  | _ => event.heading

def fields : Event → List (String × String)
  | .createReceived id | .saved id | .sent id => [("id", id)]
  | .saveFailed id error => [("id", id), ("code", error.code)]
  | .lookedUp id found => [("id", id), ("found", toString found)]
  | .searchReceived filter => [("filter", filter.describe)]
  | .searchFinished count => [("count", toString count)]
  | .searchStopped count reason => [("count", toString count), ("reason", reason)]
  | .searchFailed count error => [("count", toString count), ("code", error.code)]
  | .entropyUnread _ | .failureUndelivered => []
  | .completed operation => [("operation", operation)]
  | .callStarted service method => [("grpc.service", service), ("grpc.method", method)]
  | .callCompleted service method status =>
    [("grpc.service", service), ("grpc.method", method), ("grpc.status", status)]

/-- An event as the log has it: level, text and fields. -/
def line (event : Event) : Level × String × List (String × String) :=
  (event.level, event.message, event.fields)

/-- The levels and fields of the events under a heading, in order. -/
def under (heading : String) (events : List Event) : List (Level × List (String × String)) :=
  (events.filter fun event => event.heading = heading).map fun event => (event.level, event.fields)

theorem under_eq_nil_iff {heading : String} {events : List Event} :
    under heading events = [] ↔ ∀ event ∈ events, event.heading ≠ heading := by
  simp [under]

theorem under_append (heading : String) (events events' : List Event) :
    under heading (events ++ events') = under heading events ++ under heading events' := by
  simp [under]

theorem under_flatMap {α : Type} (heading : String) (f : α → List Event) (xs : List α) :
    under heading (xs.flatMap f) = xs.flatMap fun x => under heading (f x) := by
  simp [under, List.filter_flatMap, List.map_flatMap]

end Event

end LaptopCatalogue
