import LaptopCatalogue.Laptop.Requests
import LaptopCatalogue.Store.Basic
import LaptopCatalogue.Service.Status
import LaptopCatalogue.Service.Event
import LaptopCatalogue.Id.Uuid
import LaptopCatalogue.Text.Quoted

/-!
# Creating and finding laptops

A call takes a request and a store, and gives an answer and the events it logged. The request is
checked before the store is asked, and a store that aborts ends its call only. The last event of
every call says that the operation is over.

* `resolveId`: a client's own id must be a UUID and is kept as it was written; without one the
  record gets a random id, if there are random bytes.
* `create`, `find`: the two calls.
-/

namespace LaptopCatalogue.Service

/-- What a call gives: its answer, and its events in order. -/
structure Handled (α : Type) where
  answer : Except Status α
  events : List Event := []
deriving Repr

/-- Sixteen random bytes, or why they cannot be read. -/
abbrev Entropy := Except String Uuid

instance : Coe Uuid Entropy := ⟨.ok⟩

/-- The status for a call whose task aborted. Tasks have numbers that mean nothing outside; the
letter stands in their place. -/
def abortedStatus (task reason : String) : Status :=
  ⟨.internal, s!"{task} task failed: task N panicked with message {quoted reason}"⟩

/-- The id under which a record is to be stored. Random bytes are needed only if the record comes
without one. -/
def resolveId (id : String) (entropy : Entropy) : Handled String :=
  if id = "" then
    match entropy with
    | .ok bytes => { answer := .ok bytes.version4.text }
    | .error cause =>
      { answer := .error ⟨.internal, s!"cannot generate a new laptop ID: {cause}"⟩
        events := [.entropyUnread cause] }
  else match Uuid.parse id with
    | .ok _ => { answer := .ok id }
    | .error error =>
      { answer := .error ⟨.invalidArgument, s!"laptop ID is not a valid UUID: {error.message}"⟩ }

/-- All that can become of an id: an empty one is replaced, if there are random bytes, a UUID is
kept as it was written, and any other text is refused as an invalid argument. -/
theorem resolveId_cases (id : String) (entropy : Entropy) :
    (id = "" ∧ ∃ bytes : Uuid, entropy = .ok bytes ∧
      resolveId id entropy = { answer := .ok bytes.version4.text }) ∨
    (id = "" ∧ ∃ cause, entropy = .error cause ∧
      resolveId id entropy =
        { answer := .error ⟨.internal, "cannot generate a new laptop ID: " ++ cause⟩
          events := [.entropyUnread cause] }) ∨
    (id ≠ "" ∧ (Uuid.parse id).isOk ∧ resolveId id entropy = { answer := .ok id }) ∨
    (id ≠ "" ∧ ¬(Uuid.parse id).isOk ∧ ∃ reason,
      resolveId id entropy =
        { answer := .error ⟨.invalidArgument, "laptop ID is not a valid UUID: " ++ reason⟩ }) := by
  by_cases hid : id = ""
  · cases entropy with
    | ok bytes =>
      left
      exact ⟨hid, bytes, rfl, if_pos hid⟩
    | error cause =>
      right; left
      exact ⟨hid, cause, rfl, if_pos hid⟩
  · cases hparse : Uuid.parse id with
    | ok uuid =>
      right; right; left
      exact ⟨hid, rfl, by simp [resolveId, hid, hparse]⟩
    | error error =>
      right; right; right
      refine ⟨hid, by simp [Except.isOk, Except.toBool], error.message, ?_⟩
      simp only [resolveId, hid, hparse, if_false]
      rfl

def createOperation : String := "create_laptop"

def findOperation : String := "find_laptop"

def saveResolved {σ : Type} (store : Store σ) (laptop : Laptop) (s : σ) :
    Handled CreateResponse × σ :=
  match store.save laptop s with
  | (.returned (), s) => ({ answer := .ok { id := laptop.id }, events := [.saved laptop.id] }, s)
  | (.failed error, s) =>
    ({ answer := .error (error.status "cannot save laptop to the store")
       events := [.saveFailed laptop.id error] }, s)
  | (.aborted reason, s) =>
    ({ answer := .error (abortedStatus "create-laptop" reason), events := [] }, s)

/-- Creates a record. The random bytes are read only if it needs an id. -/
def create {σ : Type} (store : Store σ) (entropy : Entropy) (request : CreateRequest) (s : σ) :
    Handled CreateResponse × σ :=
  match request.laptop with
  | none =>
    ({ answer := .error ⟨.invalidArgument, "laptop is required"⟩
       events := [.completed createOperation] }, s)
  | some laptop =>
    let resolved := resolveId laptop.id entropy
    let received := .createReceived laptop.id :: resolved.events
    match resolved.answer with
    | .error status =>
      ({ answer := .error status, events := received ++ [.completed createOperation] }, s)
    | .ok id =>
      let (handled, s) := saveResolved store { laptop with id } s
      ({ handled with events := received ++ handled.events ++ [.completed createOperation] }, s)

/-- Looks a record up. An id that nobody has is no failure. -/
def find {σ : Type} (store : Store σ) (request : FindRequest) (s : σ) :
    Handled FindResponse × σ :=
  if request.id = "" then
    ({ answer := .error ⟨.invalidArgument, "laptop ID is required"⟩
       events := [.completed findOperation] }, s)
  else match store.find request.id s with
    | (.returned laptop, s) =>
      ({ answer := .ok { laptop }
         events := [.lookedUp request.id laptop.isSome, .completed findOperation] }, s)
    | (.failed error, s) =>
      ({ answer := .error (error.status "cannot find laptop in the store")
         events := [.completed findOperation] }, s)
    | (.aborted reason, s) =>
      ({ answer := .error (abortedStatus "find-laptop" reason)
         events := [.completed findOperation] }, s)

end LaptopCatalogue.Service
