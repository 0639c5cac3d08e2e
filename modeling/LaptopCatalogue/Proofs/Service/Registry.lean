import Mathlib.Data.Finmap
import LaptopCatalogue.Store.Catalogue
import LaptopCatalogue.Proofs.Run
import LaptopCatalogue.Proofs.Service.Calls
import LaptopCatalogue.Proofs.Stream.Reading

/-!
# The service as a finite map

A client of the service that keeps its records in memory sees a finite map from ids to laptops. It
is told the codes of refusals, the ids of new records, what it looks up, and the records that
qualify, of which it is told nothing about the order.

* `Registry.answer` is the map with its answers.
* `Represents` relates a catalogue to the map of its entries.
* `Shows` relates a reply to an answer of the map.
* `calls_answer_as_registry` says that both stay related in all runs.
-/

namespace LaptopCatalogue

/-! ## The map -/

/-- Laptops by their ids. -/
abbrev Registry : Type := Finmap fun _ : String => Laptop

namespace Registry

open Service (Call Entropy)

/-- What is told about a call. A search gives each record as often as it is streamed. -/
inductive Answer where
  | created (answer : Except StatusCode String)
  | found (answer : Except StatusCode (Option Laptop))
  | streamed (laptops : Multiset Laptop)

/-- Adds a record, if its id is no key. -/
def add (registry : Registry) (laptop : Laptop) : Except StatusCode String × Registry :=
  if laptop.id ∈ registry then (.error .alreadyExists, registry)
  else (.ok laptop.id, registry.insert laptop.id laptop)

/-- Adds the record of a request under its own id, which must be a UUID, or under a new one if there
are random bytes for it. -/
def create (entropy : Entropy) (request : CreateRequest) (registry : Registry) :
    Except StatusCode String × Registry :=
  match request.laptop with
  | none => (.error .invalidArgument, registry)
  | some laptop =>
    if laptop.id = "" then
      match entropy with
      | .ok bytes => registry.add { laptop with id := bytes.version4.text }
      | .error _ => (.error .internal, registry)
    else if (Uuid.parse laptop.id).isOk then registry.add laptop
    else (.error .invalidArgument, registry)

/-- Looks up an id, which must not be empty. -/
def find (request : FindRequest) (registry : Registry) : Except StatusCode (Option Laptop) :=
  if request.id = "" then .error .invalidArgument else .ok (registry.lookup request.id)

/-- The records that qualify. Without a filter in the request the default one applies. -/
def search (request : SearchRequest) (registry : Registry) : Multiset Laptop :=
  (registry.entries.map Sigma.snd).filter fun laptop =>
    (request.filter.getD {}).qualifies laptop

/-- The answer to a call, and the map after it. -/
def answer : Call → Registry → Answer × Registry
  | .create entropy request, registry =>
    let (answer, registry) := registry.create entropy request
    (.created answer, registry)
  | .find request, registry => (.found (registry.find request), registry)
  | .search request, registry => (.streamed (registry.search request), registry)

end Registry

/-! ## Catalogues and maps -/

/-- Whether a map has the entries of a catalogue. -/
def Represents (catalogue : Catalogue) (registry : Registry) : Prop :=
  registry.entries = (catalogue.entries.map Prod.toSigma : Multiset (Σ _ : String, Laptop))

theorem represents_empty : Represents .empty ∅ := rfl

theorem dlookup_toSigma (entries : List (String × Laptop)) (id : String) :
    (entries.map Prod.toSigma).dlookup id = entries.lookup id := by
  induction entries with
  | nil => rfl
  | cons entry entries ih =>
    rcases entry with ⟨key, laptop⟩
    by_cases hkey : id = key
    · subst hkey
      simp [List.dlookup_cons_eq]
    · have hne : (id == key) = false := beq_eq_false_iff_ne.mpr hkey
      rw [List.map_cons, List.dlookup_cons_ne _ _ hkey, ih, List.lookup_cons, hne]

namespace Represents

variable {catalogue : Catalogue} {registry : Registry}

theorem lookup_eq (h : Represents catalogue registry) (id : String) :
    registry.lookup id = catalogue.find? id := by
  -- a map has no key twice, so neither has the catalogue
  have hkeys : (catalogue.entries.map Prod.toSigma).NodupKeys := by
    have hnodup := registry.nodupKeys
    rw [h] at hnodup
    exact Multiset.coe_nodupKeys.mp hnodup
  have hregistry : registry = AList.toFinmap ⟨_, hkeys⟩ := Finmap.ext h
  rw [hregistry, Finmap.lookup_toFinmap]
  exact dlookup_toSigma catalogue.entries id

theorem mem_iff (h : Represents catalogue registry) (id : String) :
    id ∈ registry ↔ (catalogue.find? id).isSome := by
  rw [← Finmap.lookup_isSome, h.lookup_eq]

theorem insert (h : Represents catalogue registry) {laptop : Laptop}
    (hfree : catalogue.find? laptop.id = none) :
    Represents (catalogue.insert laptop) (registry.insert laptop.id laptop) := by
  have hnot : laptop.id ∉ registry := by
    rw [h.mem_iff, hfree]
    simp
  unfold Represents
  rw [Finmap.entries_insert_of_notMem hnot, h, Multiset.cons_coe, Multiset.coe_eq_coe]
  -- a catalogue has its new record last, a map has it first
  simp only [Catalogue.insert, List.map_append, List.map_cons, List.map_nil, Prod.toSigma_mk]
  exact (List.perm_append_singleton _ _).symm

/-- Every order of a catalogue gives the records that qualify in the map. -/
theorem scan_laptops (h : Represents catalogue registry) (listing : Listing)
    (request : SearchRequest) :
    ((catalogue.scanBy listing (request.filter.getD {})).laptops : Multiset Laptop) =
      registry.search request := by
  unfold Registry.search
  rw [h, Multiset.map_coe, Multiset.filter_coe, Multiset.coe_eq_coe]
  have hlaptops : (catalogue.entries.map Prod.toSigma).map Sigma.snd =
      catalogue.entries.map Prod.snd := by
    rw [List.map_map]
    rfl
  rw [hlaptops]
  simpa using Catalogue.scanBy_laptops_perm listing catalogue (request.filter.getD {})

end Represents

/-! ## Replies and answers -/

/-- Whether a stream is there to give a client these laptops, each as often as here and no failure.
A client that stays can read it to its end, and in whatever order scan and client move, it has then
received them. -/
structure Streams (stream : Stream) (laptops : Multiset Laptop) : Prop where
  ends : ∃ final, stream.ReadsTo final
  received_eq : ∀ final, stream.ReadsTo final →
    (final.received : Multiset Item) = laptops.map Item.laptop

theorem start_streams (buffer : Nat) (laptops : List Laptop) :
    Streams (Stream.start buffer ⟨laptops, .returned ()⟩) laptops := by
  constructor
  · exact ⟨_, Stream.readAll_readsTo buffer _⟩
  · intro final hfinal
    rw [hfinal.received_eq]
    simp [Scan.items, Scan.closing]

open Service

/-- Whether a reply tells a client what the map answers. There is no stream exactly when a channel
for so many items cannot be made. -/
def Shows (buffer : Nat) : Reply → Registry.Answer → Prop
  | .created handled, .created answer =>
    (handled.answer.mapError Status.code).map CreateResponse.id = answer
  | .found handled, .found answer =>
    (handled.answer.mapError Status.code).map FindResponse.laptop = answer
  | .streaming _ (some stream), .streamed laptops =>
    Stream.capacityFor buffer ≤ Stream.maxCapacity ∧ Streams stream laptops
  | .streaming _ none, .streamed _ => Stream.maxCapacity < Stream.capacityFor buffer
  | _, _ => False

section

variable {catalogue : Catalogue} {registry : Registry}

/-- All that storing a record with an id can do: refuse it because its id is taken, or add it. Only
the latter changes the catalogue. -/
theorem saveResolved_cases (listing : Listing) (laptop : Laptop) (hid : laptop.id ≠ "")
    (catalogue : Catalogue) :
    ((catalogue.find? laptop.id).isSome ∧
      ∃ status, (saveResolved (Catalogue.storeBy listing) laptop catalogue).1.answer =
          .error status ∧
        status.code = .alreadyExists ∧
        (saveResolved (Catalogue.storeBy listing) laptop catalogue).2 = catalogue) ∨
    (catalogue.find? laptop.id = none ∧
      (saveResolved (Catalogue.storeBy listing) laptop catalogue).1.answer =
        .ok { id := laptop.id } ∧
      (saveResolved (Catalogue.storeBy listing) laptop catalogue).2 = catalogue.insert laptop) := by
  rcases Catalogue.store_save_cases listing laptop catalogue with
    ⟨hempty, _⟩ | ⟨_, htaken, hsave⟩ | ⟨_, hfree, hsave⟩
  · exact absurd hempty hid
  · left
    rw [saveResolved, hsave]
    exact ⟨htaken, _, rfl, rfl, rfl⟩
  · right
    rw [saveResolved, hsave]
    exact ⟨hfree, rfl, rfl⟩

/-- Storing a record that has an id is adding it to the map. -/
theorem saveResolved_agrees (h : Represents catalogue registry) (listing : Listing)
    {laptop : Laptop} (hid : laptop.id ≠ "") :
    ((saveResolved (Catalogue.storeBy listing) laptop catalogue).1.answer.mapError
        Status.code).map CreateResponse.id = (registry.add laptop).1 ∧
      Represents (saveResolved (Catalogue.storeBy listing) laptop catalogue).2
        (registry.add laptop).2 := by
  have hmem : laptop.id ∈ registry ↔ (catalogue.find? laptop.id).isSome := h.mem_iff laptop.id
  rcases saveResolved_cases listing laptop hid catalogue with
    ⟨htaken, status, hanswer, hcode, hstate⟩ | ⟨hfree, hanswer, hstate⟩
  · have hadd : registry.add laptop = (.error .alreadyExists, registry) := by
      rw [Registry.add, if_pos (hmem.mpr htaken)]
    rw [hanswer, hstate, hadd, ← hcode]
    exact ⟨rfl, h⟩
  · have hadd : registry.add laptop = (.ok laptop.id, registry.insert laptop.id laptop) := by
      rw [Registry.add, if_neg (by simp [hmem, hfree])]
    rw [hanswer, hstate, hadd]
    exact ⟨rfl, h.insert hfree⟩

/-- A request that is declined is answered with the same code by the map, which stays as it is. -/
theorem registry_create_of_declines {entropy : Entropy} {request : CreateRequest} {status : Status}
    (h : Declines entropy request status) (registry : Registry) :
    registry.create entropy request = (.error status.code, registry) := by
  cases h with
  | missing hlaptop => simp [Registry.create, hlaptop]
  | malformed hlaptop hid hparse reason => simp [Registry.create, hlaptop, hid, hparse]
  | unread hcause =>
    obtain ⟨laptop, hlaptop, hid, rfl⟩ := unreadCause?_eq_some_iff.mp hcause
    simp [Registry.create, hlaptop, hid]

theorem create_agrees (h : Represents catalogue registry) (listing : Listing) (entropy : Entropy)
    (request : CreateRequest) :
    ((create (Catalogue.storeBy listing) entropy request catalogue).1.answer.mapError
        Status.code).map CreateResponse.id = (registry.create entropy request).1 ∧
      Represents (create (Catalogue.storeBy listing) entropy request catalogue).2
        (registry.create entropy request).2 := by
  rcases create_cases (Catalogue.storeBy listing) entropy request catalogue with
    ⟨status, hdeclines, hanswer, hstate⟩ |
      ⟨laptop, id, hlaptop, hid, hresolved, hanswer, hstate⟩
  · rw [hanswer, hstate, registry_create_of_declines hdeclines]
    exact ⟨rfl, h⟩
  · have hcreate : registry.create entropy request = registry.add { laptop with id } := by
      rcases hresolved with ⟨hempty, bytes, rfl, rfl⟩ | ⟨hgiven, hparse, rfl⟩
      · simp [Registry.create, hlaptop, hempty]
      · simp [Registry.create, hlaptop, hgiven, hparse]
    rw [hanswer, hstate, hcreate]
    exact saveResolved_agrees h listing hid

theorem find_agrees (h : Represents catalogue registry) (listing : Listing)
    (request : FindRequest) :
    ((find (Catalogue.storeBy listing) request catalogue).1.answer.mapError Status.code).map
        FindResponse.laptop = registry.find request := by
  by_cases hid : request.id = ""
  · simp only [find, Registry.find, hid, if_true]
    rfl
  · simp only [find, Registry.find, hid, if_false, Catalogue.storeBy, h.lookup_eq]
    rfl

theorem find_state (listing : Listing) (request : FindRequest) (catalogue : Catalogue) :
    (find (Catalogue.storeBy listing) request catalogue).2 = catalogue := by
  unfold Service.find
  split <;> rfl

/-- Searching is searching in the map, whatever the order of the records. -/
theorem search_agrees (h : Represents catalogue registry) (listing : Listing) (buffer : Nat)
    (request : SearchRequest) :
    Shows buffer
      (.streaming (search (Catalogue.storeBy listing) buffer request catalogue).1
        (search (Catalogue.storeBy listing) buffer request catalogue).2.1)
      (.streamed (registry.search request)) := by
  by_cases hadmitted : Stream.capacityFor buffer ≤ Stream.maxCapacity
  · have hstreams := start_streams buffer
      (catalogue.scanBy listing (request.filter.getD {})).laptops
    rw [h.scan_laptops] at hstreams
    simp only [search, hadmitted, if_true]
    exact ⟨hadmitted, hstreams⟩
  · simp only [search, hadmitted, if_false]
    exact not_le.mp hadmitted

theorem search_state (listing : Listing) (buffer : Nat) (request : SearchRequest)
    (catalogue : Catalogue) :
    (search (Catalogue.storeBy listing) buffer request catalogue).2.2 = catalogue := by
  unfold Service.search
  split <;> rfl

/-- Each call is shown as the map answers it, and keeps catalogue and map related. -/
theorem perform_agrees (listing : Listing) (buffer : Nat) (call : Call)
    (h : Represents catalogue registry) :
    Shows buffer (call.perform (Catalogue.storeBy listing) buffer catalogue).1
        (registry.answer call).1 ∧
      Represents (call.perform (Catalogue.storeBy listing) buffer catalogue).2
        (registry.answer call).2 := by
  cases call with
  | create entropy request => exact create_agrees h listing entropy request
  | find request =>
    refine ⟨find_agrees h listing request, ?_⟩
    simp only [Call.perform, find_state]
    exact h
  | search request =>
    refine ⟨search_agrees h listing buffer request, ?_⟩
    simp only [Call.perform, search_state]
    exact h

/-- A call leaves the catalogue as it is, unless it replies that a record was stored. -/
theorem perform_of_createdId?_eq_none {listing : Listing} {buffer : Nat} {call : Call}
    (h : (call.perform (Catalogue.storeBy listing) buffer catalogue).1.createdId? = none) :
    (call.perform (Catalogue.storeBy listing) buffer catalogue).2 = catalogue := by
  cases call with
  | create entropy request =>
    rcases create_cases (Catalogue.storeBy listing) entropy request catalogue with
      ⟨_, _, _, hstate⟩ | ⟨laptop, id, _, hid, _, hanswer, hstate⟩
    · exact hstate
    · rcases saveResolved_cases listing { laptop with id } hid catalogue with
        ⟨_, _, _, _, hsaved⟩ | ⟨_, hok, _⟩
      · exact hstate.trans hsaved
      · -- the record was added, and the reply says so
        simp [Call.perform, Reply.createdId?, hanswer, hok, Except.toOption] at h
  | find request => exact find_state listing request catalogue
  | search request => exact search_state listing buffer request catalogue

end

/-! ## Runs -/

/-- The service with its records in memory is a finite map from ids to laptops. For every order in
which catalogues list their records and every buffer, each call of a run on a new catalogue is shown
as the map answers it, where the map starts empty and goes through the same calls; the catalogue has
the entries of the map after the run; and each call that does not reply that a record was stored
leaves the catalogue as it was. -/
theorem calls_answer_as_registry (listing : Listing) (buffer : Nat) (calls : List Call) :
    let perform := Call.perform (Catalogue.storeBy listing) buffer
    List.Forall₂ (fun shown told => shown.1 = told.1 ∧ Shows buffer shown.2 told.2)
      (runAll perform calls .empty).1 (runAll Registry.answer calls ∅).1 ∧
    Represents (runAll perform calls .empty).2 (runAll Registry.answer calls ∅).2 ∧
    ∀ before call after, calls = before ++ call :: after →
      ∃ reply, (runAll perform calls .empty).1[before.length]? = some (call, reply) ∧
        (reply.createdId? = none →
          (runAll perform (before ++ [call]) .empty).2 = (runAll perform before .empty).2) := by
  intro perform
  obtain ⟨hshows, hrepresents⟩ :=
    runAll_simulates (fun call _ _ => perform_agrees listing buffer call) calls represents_empty
  refine ⟨hshows, hrepresents, ?_⟩
  rintro before call after rfl
  refine ⟨_, runAll_at perform before after call .empty, ?_⟩
  intro hnone
  rw [runAll_snoc]
  exact perform_of_createdId?_eq_none hnone

end LaptopCatalogue
