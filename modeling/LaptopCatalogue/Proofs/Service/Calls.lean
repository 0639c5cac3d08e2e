import LaptopCatalogue.Service.Call
import LaptopCatalogue.Service.Search

/-!
# The calls of the service

The three calls as values, so that runs can be spoken about: whatever the store, a call is performed
on the state of the store and gives a reply.

* `Service.Call.perform` performs a call.
* `Service.Reply.createdId?` reads off a reply which record was stored.
* `Service.Declines` lists the create requests for which the store is not asked, with their answers.
* `Service.create_cases` says all that a create call can do.
-/

namespace LaptopCatalogue.Service

/-- A call with all that it depends on. The entropy of a create call is used if its record needs an
id. -/
inductive Call where
  | create (entropy : Entropy) (request : CreateRequest)
  | find (request : FindRequest)
  | search (request : SearchRequest)

/-- What a call gives. A search has no stream if its channel is too large to be made. -/
inductive Reply where
  | created (handled : Handled CreateResponse)
  | found (handled : Handled FindResponse)
  | streaming (event : Event) (stream : Option Stream)

section

variable {σ : Type} (store : Store σ)

/-- Performs a call, with channels for the given number of items. -/
def Call.perform (buffer : Nat) : Call → σ → Reply × σ
  | .create entropy request, s =>
    let (handled, s) := Service.create store entropy request s
    (.created handled, s)
  | .find request, s =>
    let (handled, s) := Service.find store request s
    (.found handled, s)
  | .search request, s =>
    let (event, stream, s) := Service.search store buffer request s
    (.streaming event stream, s)

/-- The id of the record that was stored, as far as a reply says that one was. -/
def Reply.createdId? : Reply → Option String
  | .created handled => handled.answer.toOption.map CreateResponse.id
  | _ => none

theorem createdId?_of_ok {handled : Handled CreateResponse} {id : String}
    (h : handled.answer = .ok { id }) : (Reply.created handled).createdId? = some id := by
  simp [Reply.createdId?, h, Except.toOption]

theorem createdId?_of_error {handled : Handled CreateResponse} {status : Status}
    (h : handled.answer = .error status) : (Reply.created handled).createdId? = none := by
  simp [Reply.createdId?, h, Except.toOption]

/-- Why no id can be made for the record of a request that comes without one. -/
def unreadCause? (entropy : Entropy) (request : CreateRequest) : Option String :=
  match request.laptop, entropy with
  | some laptop, .error cause => if laptop.id = "" then some cause else none
  | _, _ => none

theorem unreadCause?_eq_some_iff {entropy : Entropy} {request : CreateRequest} {cause : String} :
    unreadCause? entropy request = some cause ↔
      ∃ laptop, request.laptop = some laptop ∧ laptop.id = "" ∧ entropy = .error cause := by
  unfold unreadCause?
  cases request.laptop with
  | none => simp
  | some laptop => cases entropy <;> simp

/-- How a create request is answered for which the store is not asked: it has no record, the id of
its record is not a UUID, or no id can be made for it. -/
inductive Declines (entropy : Entropy) (request : CreateRequest) : Status → Prop where
  | missing (hlaptop : request.laptop = none) :
      Declines entropy request ⟨.invalidArgument, "laptop is required"⟩
  | malformed {laptop : Laptop} (hlaptop : request.laptop = some laptop) (hid : laptop.id ≠ "")
      (hparse : ¬(Uuid.parse laptop.id).isOk) (reason : String) :
      Declines entropy request ⟨.invalidArgument, "laptop ID is not a valid UUID: " ++ reason⟩
  | unread {cause : String} (hcause : unreadCause? entropy request = some cause) :
      Declines entropy request ⟨.internal, "cannot generate a new laptop ID: " ++ cause⟩

/-- All that a create call can do: decline the request and leave the store alone, or store its
record under the id that was given or made. -/
theorem create_cases (entropy : Entropy) (request : CreateRequest) (s : σ) :
    (∃ status, Declines entropy request status ∧
      (create store entropy request s).1.answer = .error status ∧
      (create store entropy request s).2 = s) ∨
    (∃ laptop id, request.laptop = some laptop ∧ id ≠ "" ∧
      ((laptop.id = "" ∧ ∃ bytes : Uuid, entropy = .ok bytes ∧ id = bytes.version4.text) ∨
        (laptop.id ≠ "" ∧ (Uuid.parse laptop.id).isOk ∧ id = laptop.id)) ∧
      (create store entropy request s).1.answer =
        (saveResolved store { laptop with id } s).1.answer ∧
      (create store entropy request s).2 = (saveResolved store { laptop with id } s).2) := by
  cases hlaptop : request.laptop with
  | none =>
    left
    exact ⟨_, .missing hlaptop, by simp [create, hlaptop], by simp [create, hlaptop]⟩
  | some laptop =>
    rcases resolveId_cases laptop.id entropy with
      ⟨hid, bytes, hbytes, hresolved⟩ | ⟨hid, cause, hcause, hresolved⟩ |
        ⟨hid, hparse, hresolved⟩ | ⟨hid, hparse, reason, hresolved⟩
    · right
      exact ⟨laptop, _, rfl, bytes.version4.text_ne_empty, Or.inl ⟨hid, bytes, hbytes, rfl⟩,
        by simp [create, hlaptop, hresolved], by simp [create, hlaptop, hresolved]⟩
    · left
      exact ⟨_, .unread (unreadCause?_eq_some_iff.mpr ⟨laptop, hlaptop, hid, hcause⟩),
        by simp [create, hlaptop, hresolved], by simp [create, hlaptop, hresolved]⟩
    · right
      exact ⟨laptop, _, rfl, hid, Or.inr ⟨hid, hparse, rfl⟩,
        by simp [create, hlaptop, hresolved], by simp [create, hlaptop, hresolved]⟩
    · left
      exact ⟨_, .malformed hlaptop hid hparse reason, by simp [create, hlaptop, hresolved],
        by simp [create, hlaptop, hresolved]⟩

end

end LaptopCatalogue.Service
