import LaptopCatalogue.Proofs.Id.Spelling
import LaptopCatalogue.Proofs.Store.Enumeration
import LaptopCatalogue.Proofs.Service.Answers
import LaptopCatalogue.Proofs.Service.Registry

/-!
# The ids of the records

The service that keeps its records in memory stores a record only under an id that is read as a
UUID, and under the text of the id as it was given. So each id that a client is ever told can be
used again, and two texts are two ids, even if they denote one UUID.

* `Service.perform_cases` says all that a call can do to the records.
* `Service.Keeps` is the invariant: the ids of the records are those that were answered, in order,
  each once, and each is read as a UUID.
* `Service.records_of_one_uuid_differ_in_writing` says when records of one UUID exclude each other,
  `Service.uuid_has_five_records` that they need not.
* `Service.told_ids_are_uuids` is about all ids that clients are told.
-/

namespace LaptopCatalogue.Service

/-! ## One call -/

theorem exists_of_isOk {ε α : Type} {x : Except ε α} (h : x.isOk) : ∃ value, x = .ok value := by
  cases x with
  | ok value => exact ⟨value, rfl⟩
  | error _ => cases h

/-- The id of a record that is due is read as a UUID, whether it was given or made. -/
theorem isOk_of_dueRecord {entropy : Entropy} {request : CreateRequest} {record : Laptop}
    (h : dueRecord entropy request = some record) : (Uuid.parse record.id).isOk := by
  obtain ⟨laptop, _, hrecord⟩ := Option.bind_eq_some_iff.mp h
  split_ifs at hrecord with hempty hparse
  · obtain ⟨bytes, _, rfl⟩ := Option.map_eq_some_iff.mp hrecord
    rw [Uuid.parse_text]
    rfl
  · cases hrecord
    exact hparse

/-- A record whose id is a UUID is due as it is. -/
theorem dueRecord_of_isOk {request : CreateRequest} {laptop : Laptop}
    (hlaptop : request.laptop = some laptop) (hparse : (Uuid.parse laptop.id).isOk)
    (entropy : Entropy) : dueRecord entropy request = some laptop := by
  obtain ⟨uuid, huuid⟩ := exists_of_isOk hparse
  unfold dueRecord
  rw [hlaptop, Option.bind_some, if_neg (Uuid.ne_empty_of_parse_eq huuid), if_pos hparse]

section

variable (listing : Listing) (buffer : Nat) (catalogue : Catalogue)

/-- A record that is due is refused if its id is taken, and added if it is free. -/
theorem create_of_dueRecord {entropy : Entropy} {request : CreateRequest} {record : Laptop}
    (h : dueRecord entropy request = some record) :
    ((catalogue.find? record.id).isSome ∧
      ∃ status, (create (Catalogue.storeBy listing) entropy request catalogue).1.answer =
          .error status ∧
        status.code = .alreadyExists ∧
        (create (Catalogue.storeBy listing) entropy request catalogue).2 = catalogue) ∨
    (catalogue.find? record.id = none ∧
      (create (Catalogue.storeBy listing) entropy request catalogue).1.answer =
        .ok { id := record.id } ∧
      (create (Catalogue.storeBy listing) entropy request catalogue).2 =
        catalogue.insert record) := by
  have hdue := create_due (Catalogue.storeBy listing) entropy request catalogue
  simp only [h] at hdue
  obtain ⟨uuid, huuid⟩ := exists_of_isOk (isOk_of_dueRecord h)
  rw [hdue.1, hdue.2]
  exact saveResolved_cases listing record (Uuid.ne_empty_of_parse_eq huuid) catalogue

/-- All that a call can do to the records: nothing, or add one at a free id, which is a UUID and is
the answer. -/
theorem perform_cases (call : Call) :
    ((call.perform (Catalogue.storeBy listing) buffer catalogue).1.createdId? = none ∧
      (call.perform (Catalogue.storeBy listing) buffer catalogue).2 = catalogue) ∨
    ∃ record : Laptop,
      (call.perform (Catalogue.storeBy listing) buffer catalogue).1.createdId? = some record.id ∧
      (Uuid.parse record.id).isOk ∧ catalogue.find? record.id = none ∧
      (call.perform (Catalogue.storeBy listing) buffer catalogue).2 =
        catalogue.insert record := by
  cases call with
  | create entropy request =>
    cases hrecord : dueRecord entropy request with
    | none =>
      left
      have hdue := create_due (Catalogue.storeBy listing) entropy request catalogue
      simp only [hrecord] at hdue
      obtain ⟨⟨status, _, hanswer⟩, hstate⟩ := hdue
      exact ⟨createdId?_of_error hanswer, hstate⟩
    | some record =>
      rcases create_of_dueRecord listing catalogue hrecord with
        ⟨_, status, hanswer, _, hstate⟩ | ⟨hfree, hanswer, hstate⟩
      · left
        exact ⟨createdId?_of_error hanswer, hstate⟩
      · right
        exact ⟨record, createdId?_of_ok hanswer, isOk_of_dueRecord hrecord, hfree, hstate⟩
  | find request =>
    left
    exact ⟨rfl, find_state listing request catalogue⟩
  | search request =>
    left
    exact ⟨rfl, search_state listing buffer request catalogue⟩

/-! ## Runs -/

/-- A catalogue that keeps its records under the given ids: each record under its own, no id twice,
and each of them a UUID. -/
structure Keeps (ids : List String) (catalogue : Catalogue) : Prop where
  keys : catalogue.entries.map Prod.fst = ids
  keyed : ∀ entry ∈ catalogue.entries, entry.1 = entry.2.id
  distinct : ids.Nodup
  uuids : ∀ id ∈ ids, (Uuid.parse id).isOk

theorem keeps_empty : Keeps [] .empty := by
  refine ⟨rfl, ?_, List.nodup_nil, ?_⟩
  · intro entry h
    cases h
  · intro id h
    cases h

variable {listing buffer catalogue} {ids : List String}

theorem Keeps.mem_iff (h : Keeps ids catalogue) (id : String) :
    id ∈ ids ↔ (catalogue.find? id).isSome := by
  rw [Option.isSome_iff_ne_none, ne_eq, Catalogue.find?_eq_none_iff, h.keys, not_not]

/-- The ids of the records themselves are the ids that they are kept under. -/
theorem Keeps.recordIds_eq (h : Keeps ids catalogue) :
    (catalogue.entries.map fun entry => entry.2.id) = ids := by
  rw [← h.keys]
  exact List.map_congr_left fun entry hentry => (h.keyed entry hentry).symm

/-- Every call keeps the invariant, with the id that it replies. -/
theorem Keeps.perform (h : Keeps ids catalogue) (call : Call) :
    Keeps
      (ids ++ (call.perform (Catalogue.storeBy listing) buffer catalogue).1.createdId?.toList)
      (call.perform (Catalogue.storeBy listing) buffer catalogue).2 := by
  rcases perform_cases listing buffer catalogue call with
    ⟨hnone, hstate⟩ | ⟨record, hcreated, hparse, hfree, hstate⟩
  · rw [hnone, hstate, Option.toList_none, List.append_nil]
    exact h
  · -- the id of the new record was free, so no id is kept twice
    have hnew : record.id ∉ ids := by
      rw [h.mem_iff, hfree]
      simp
    rw [hcreated, hstate, Option.toList_some]
    refine ⟨by simp [Catalogue.insert, h.keys], ?_, ?_, ?_⟩
    · intro entry hentry
      rcases List.mem_append.mp hentry with hold | hadded
      · exact h.keyed entry hold
      · rw [List.mem_singleton.mp hadded]
    · rw [List.nodup_append_comm]
      exact List.nodup_cons.mpr ⟨hnew, h.distinct⟩
    · intro id hid
      rcases List.mem_append.mp hid with hold | hadded
      · exact h.uuids id hold
      · rw [List.mem_singleton.mp hadded]
        exact hparse

/-- Every run on a new catalogue keeps the records under the ids that it replied. -/
theorem keeps_runAll (listing : Listing) (buffer : Nat) (calls : List Call) :
    Keeps (createdIds (runAll (Call.perform (Catalogue.storeBy listing) buffer) calls .empty).1)
      (runAll (Call.perform (Catalogue.storeBy listing) buffer) calls .empty).2 := by
  induction calls using List.reverseRecOn with
  | nil => exact keeps_empty
  | append_singleton calls call ih =>
    rw [runAll_snoc, createdIds_append, createdIds_cons]
    simpa [createdIds] using ih.perform call

/-- The ids of a run go on from those of its beginning. -/
theorem createdIds_runAll_append {σ : Type} (store : Store σ) (buffer : Nat)
    (before after : List Call) (s : σ) :
    createdIds (runAll (Call.perform store buffer) before s).1 <+:
      createdIds (runAll (Call.perform store buffer) (before ++ after) s).1 := by
  rw [runAll_append, createdIds_append]
  exact List.prefix_append _ _

/-! ## Records of one UUID -/

/-- A create call stores its record exactly if the text of the id is not taken. -/
theorem Keeps.createdId?_perform (h : Keeps ids catalogue) {entropy : Entropy}
    {request : CreateRequest} {record : Laptop}
    (hrecord : dueRecord entropy request = some record) :
    ((Call.create entropy request).perform (Catalogue.storeBy listing) buffer
        catalogue).1.createdId? = if record.id ∈ ids then none else some record.id := by
  rcases create_of_dueRecord listing catalogue hrecord with
    ⟨htaken, status, hanswer, _, _⟩ | ⟨hfree, hanswer, _⟩
  · rw [if_pos ((h.mem_iff record.id).mpr htaken)]
    exact createdId?_of_error hanswer
  · rw [if_neg (by simp [h.mem_iff, hfree])]
    exact createdId?_of_ok hanswer

end

/-- Records whose ids denote one UUID are written in different ways. In every run on a new
catalogue, the ids of the records are those that were answered, in order. No two of them denote one
UUID and are written alike, which is in the same spelling and with capitals in the same places; so
of calls whose ids do, one at most stores a record. More exactly, a call that asks for a record to
be stored succeeds unless the id of the record has been answered before, letter for letter. -/
theorem records_of_one_uuid_differ_in_writing (listing : Listing) (buffer : Nat)
    (calls : List Call) :
    let perform := Call.perform (Catalogue.storeBy listing) buffer
    let run := runAll perform calls .empty
    (run.2.entries.map fun entry => entry.2.id) = createdIds run.1 ∧
    (run.2.entries.Pairwise fun entry entry' => ¬Uuid.SpelledAlike entry.2.id entry'.2.id) ∧
    ((createdIds run.1).Pairwise fun id id' => ¬Uuid.SpelledAlike id id') ∧
    ∀ before entropy request after, calls = before ++ .create entropy request :: after →
      ∀ record, dueRecord entropy request = some record →
        ∃ reply, run.1[before.length]? = some (.create entropy request, reply) ∧
          reply.createdId? =
            if record.id ∈ createdIds (runAll perform before .empty).1 then none
            else some record.id := by
  intro perform run
  have hkeeps : Keeps (createdIds run.1) run.2 := keeps_runAll listing buffer calls
  have hids : (run.2.entries.map fun entry => entry.2.id) = createdIds run.1 :=
    hkeeps.recordIds_eq
  have hapart : (createdIds run.1).Pairwise fun id id' => ¬Uuid.SpelledAlike id id' :=
    hkeeps.distinct.imp fun hne halike => hne halike.eq
  refine ⟨hids, ?_, hapart, ?_⟩
  · rw [← hids, List.pairwise_map] at hapart
    exact hapart
  · rintro before entropy request after rfl record hrecord
    exact ⟨_, runAll_at perform before after (.create entropy request) .empty,
      (keeps_runAll listing buffer before).createdId?_perform hrecord⟩

/-- One UUID in small letters and in capitals has two records, and the first of them cannot be
stored again. -/
theorem records_of_one_uuid_differ_in_writing_capitals :
    let small : CreateRequest := { laptop := some { id := "2bd0a8f3-6f5c-4b8e-9d3c-6a2f1e7c9b10" } }
    let capital : CreateRequest :=
      { laptop := some { id := "2BD0A8F3-6F5C-4B8E-9D3C-6A2F1E7C9B10" } }
    let entropy : Uuid := ⟨List.replicate 16 0, rfl⟩
    let before : List Call := [.create entropy small, .create entropy capital]
    let calls : List Call := before ++ .create entropy small :: []
    let run := runAll (Call.perform Catalogue.store 16) calls .empty
    dueRecord entropy small = small.laptop ∧
      createdIds run.1 =
        ["2bd0a8f3-6f5c-4b8e-9d3c-6a2f1e7c9b10", "2BD0A8F3-6F5C-4B8E-9D3C-6A2F1E7C9B10"] ∧
      ¬Uuid.SpelledAlike "2bd0a8f3-6f5c-4b8e-9d3c-6a2f1e7c9b10"
        "2BD0A8F3-6F5C-4B8E-9D3C-6A2F1E7C9B10" ∧
      ∃ reply, run.1[2]? = some (.create entropy small, reply) ∧ reply.createdId? = none := by
  intro small capital entropy before calls run
  obtain ⟨_, _, hapart, hlaw⟩ := records_of_one_uuid_differ_in_writing .bySaving 16 calls
  have hdue : dueRecord entropy small = small.laptop := by decide +kernel +zetaReduce
  have hcreated : createdIds run.1 =
      ["2bd0a8f3-6f5c-4b8e-9d3c-6a2f1e7c9b10", "2BD0A8F3-6F5C-4B8E-9D3C-6A2F1E7C9B10"] := by
    decide +kernel +zetaReduce
  obtain ⟨reply, hat, hreply⟩ := hlaw before entropy small [] rfl _ hdue
  have htaken : "2bd0a8f3-6f5c-4b8e-9d3c-6a2f1e7c9b10" ∈
      createdIds (runAll (Call.perform Catalogue.store 16) before .empty).1 := by
    decide +kernel +zetaReduce
  change (createdIds run.1).Pairwise _ at hapart
  rw [hcreated, List.pairwise_pair] at hapart
  exact ⟨hdue, hcreated, hapart, reply, hat, hreply.trans (if_pos htaken)⟩

/-- One UUID in all four spellings, and once with capitals, has five records. -/
theorem uuid_has_five_records :
    let ids := ["2bd0a8f3-6f5c-4b8e-9d3c-6a2f1e7c9b10", "2BD0A8F3-6F5C-4B8E-9D3C-6A2F1E7C9B10",
      "2bd0a8f36f5c4b8e9d3c6a2f1e7c9b10", "\x7b2bd0a8f3-6f5c-4b8e-9d3c-6a2f1e7c9b10\x7d",
      "urn:uuid:2bd0a8f3-6f5c-4b8e-9d3c-6a2f1e7c9b10"]
    let entropy : Uuid := ⟨List.replicate 16 0, rfl⟩
    let calls := ids.map fun id => Call.create entropy { laptop := some { id } }
    let run := runAll (Call.perform Catalogue.store 16) calls .empty
    createdIds run.1 = ids ∧ (run.2.entries.map fun entry => entry.2.id) = ids ∧
      (∃ uuid, ∀ id ∈ ids, Uuid.parse id = .ok uuid) ∧
      ¬run.2.entries.Pairwise fun entry entry' =>
        ∀ uuid, Uuid.parse entry.2.id = .ok uuid → Uuid.parse entry'.2.id ≠ .ok uuid := by
  intro ids entropy calls run
  have hcreated : createdIds run.1 = ids := by decide +kernel +zetaReduce
  have hids : (run.2.entries.map fun entry => entry.2.id) = ids :=
    (keeps_runAll .bySaving 16 calls).recordIds_eq.trans hcreated
  have hone : ∃ uuid, ∀ id ∈ ids, Uuid.parse id = .ok uuid :=
    ⟨⟨[0x2b, 0xd0, 0xa8, 0xf3, 0x6f, 0x5c, 0x4b, 0x8e, 0x9d, 0x3c, 0x6a, 0x2f, 0x1e, 0x7c, 0x9b,
      0x10], rfl⟩, by decide +kernel +zetaReduce⟩
  refine ⟨hcreated, hids, hone, ?_⟩
  intro hapart
  obtain ⟨uuid, huuid⟩ := hone
  -- if no two of the records had ids of one UUID, the first two would not
  have hapart' : ids.Pairwise fun id id' =>
      ∀ uuid, Uuid.parse id = .ok uuid → Uuid.parse id' ≠ .ok uuid := by
    rw [← hids, List.pairwise_map]
    exact hapart
  obtain ⟨hfirst, _⟩ := List.pairwise_cons.mp hapart'
  exact hfirst _ List.mem_cons_self uuid (huuid _ List.mem_cons_self)
    (huuid _ (List.mem_cons_of_mem _ List.mem_cons_self))

/-! ## Ids that are told -/

/-- Whether a client can be given an id by a reply: as the id of a new record, with a record that it
looked up, or with one that it takes out of its stream, in whatever order scan and client move. -/
def Reply.MayGive : Reply → String → Prop
  | .created handled, id => handled.answer = .ok { id }
  | .found handled, id =>
    ∃ laptop, handled.answer = .ok { laptop := some laptop } ∧ laptop.id = id
  | .streaming _ none, _ => False
  | .streaming _ (some stream), id =>
    ∃ moves later laptop, stream.after? moves = some later ∧ .laptop laptop ∈ later.received ∧
      laptop.id = id

/-- The laptops that a client takes out of a stream are those of its scan. -/
theorem mem_laptops_of_received {buffer : Nat} {scan : Scan} {moves : List Move} {later : Stream}
    (hmoves : (Stream.start buffer scan).after? moves = some later) {laptop : Laptop}
    (h : .laptop laptop ∈ later.received) : laptop ∈ scan.laptops := by
  have hitem : .laptop laptop ∈ scan.items :=
    (Stream.delivers_after hmoves).received_append_channel.subset (List.mem_append_left _ h)
  rcases List.mem_append.mp hitem with hlaptop | hclosing
  · obtain ⟨laptop', hmem, hsame⟩ := List.mem_map.mp hlaptop
    cases hsame
    exact hmem
  · -- what a client is told of the end of a search is no laptop
    unfold Scan.closing at hclosing
    split at hclosing <;> simp at hclosing

section

variable {listing : Listing} {buffer : Nat} {catalogue : Catalogue} {ids : List String}

theorem Keeps.id_mem (h : Keeps ids catalogue) {entry : String × Laptop}
    (hentry : entry ∈ catalogue.entries) : entry.2.id ∈ ids := by
  rw [← h.keys, ← h.keyed entry hentry]
  exact List.mem_map_of_mem hentry

/-- An id that a client can be given is that of a record, which was there before the call or is
there after it. -/
theorem Keeps.mem_of_mayGive (h : Keeps ids catalogue) {call : Call} {id : String}
    (hgive : (call.perform (Catalogue.storeBy listing) buffer catalogue).1.MayGive id) :
    id ∈ ids ++
      (call.perform (Catalogue.storeBy listing) buffer catalogue).1.createdId?.toList := by
  cases call with
  | create entropy request =>
    have hanswer : (create (Catalogue.storeBy listing) entropy request catalogue).1.answer =
        .ok { id } := hgive
    apply List.mem_append_right
    rw [Call.perform, createdId?_of_ok hanswer]
    exact List.mem_singleton_self id
  | find request =>
    apply List.mem_append_left
    obtain ⟨laptop, hanswer, rfl⟩ := hgive
    change (find (Catalogue.storeBy listing) request catalogue).1.answer = _ at hanswer
    have hdue := find_due (Catalogue.storeBy listing) request catalogue
    rw [hanswer] at hdue
    split_ifs at hdue with hid
    · obtain ⟨⟨message, herror⟩, _⟩ := hdue
      cases herror
    · have hfound : catalogue.find? request.id = some laptop := by
        obtain ⟨htells, _⟩ := hdue
        generalize houtcome : ((Catalogue.storeBy listing).find request.id catalogue).1 = outcome
          at htells
        cases htells
        simpa [Catalogue.storeBy] using houtcome
      have hunique : (catalogue.entries.map Prod.fst).Nodup := h.keys ▸ h.distinct
      exact h.id_mem ((Catalogue.find?_eq_some_iff hunique _ _).mp hfound)
  | search request =>
    apply List.mem_append_left
    by_cases hadmitted : Stream.capacityFor buffer ≤ Stream.maxCapacity
    · simp only [Call.perform, search, hadmitted, if_true] at hgive
      obtain ⟨moves, later, laptop, hmoves, hreceived, rfl⟩ := hgive
      have hscanned := mem_laptops_of_received hmoves hreceived
      have hstored := (Catalogue.scanBy_laptops_perm listing catalogue _).subset hscanned
      obtain ⟨entry, hentry, rfl⟩ := List.mem_map.mp (List.mem_of_mem_filter hstored)
      exact h.id_mem hentry
    · simp only [Call.perform, search, hadmitted, if_false] at hgive
      cases hgive

/-- A record under an id that is kept is refused because the id is taken. -/
theorem Keeps.create_refused (h : Keeps ids catalogue) {id : String} (hid : id ∈ ids)
    {request : CreateRequest} {laptop : Laptop} (hlaptop : request.laptop = some laptop)
    (hsame : laptop.id = id) (entropy : Entropy) :
    ∃ status, (create (Catalogue.storeBy listing) entropy request catalogue).1.answer =
        .error status ∧
      status.code = .alreadyExists ∧
      (create (Catalogue.storeBy listing) entropy request catalogue).2 = catalogue := by
  subst hsame
  have hdue := dueRecord_of_isOk hlaptop (h.uuids laptop.id hid) entropy
  rcases create_of_dueRecord listing catalogue hdue with ⟨_, hrefused⟩ | ⟨hfree, _, _⟩
  · exact hrefused
  · rw [h.mem_iff, hfree] at hid
    cases hid

end

/-- The catalogue is never asked to save a record without an id. -/
theorem emptyId_notMem_answers (listing : Listing) (buffer : Nat) (call : Call)
    (catalogue : Catalogue) (laptop : Laptop) :
    .saved laptop (.failed .emptyId) ∉
      call.answers (Catalogue.storeBy listing) buffer catalogue := by
  intro h
  cases call with
  | create entropy request =>
    cases hrecord : dueRecord entropy request with
    | none => simp [Call.answers, hrecord] at h
    | some record =>
      simp only [Call.answers, hrecord, Option.map_some, Option.toList_some,
        List.mem_singleton, StoreAnswer.saved.injEq] at h
      obtain ⟨rfl, houtcome⟩ := h
      obtain ⟨uuid, huuid⟩ := exists_of_isOk (isOk_of_dueRecord hrecord)
      rcases Catalogue.store_save_cases listing laptop catalogue with
        ⟨hempty, _⟩ | ⟨_, _, hsave⟩ | ⟨_, _, hsave⟩
      · exact Uuid.ne_empty_of_parse_eq huuid hempty
      · rw [hsave] at houtcome
        cases houtcome
      · rw [hsave] at houtcome
        cases houtcome
  | find request =>
    simp only [Call.answers] at h
    split at h <;> simp at h
  | search request =>
    simp only [Call.answers] at h
    split at h <;> simp at h

/-- All ids that are kept or told are UUIDs. In every run on a new catalogue, each record stands
under its own id, which is not empty and is read as a UUID. Each id that a client can be given by a
reply is read as a UUID too, and to ask for a record to be stored under it, at any time after, is
refused because the id is taken. The catalogue never refuses a record because it has no id. -/
theorem told_ids_are_uuids (listing : Listing) (buffer : Nat) (calls : List Call) :
    let store := Catalogue.storeBy listing
    let run := runAll (Call.perform store buffer) calls .empty
    let recorded := runAll (Call.perform store.recording buffer) calls (.empty, [])
    (∀ entry ∈ run.2.entries,
      entry.1 = entry.2.id ∧ entry.1 ≠ "" ∧ (Uuid.parse entry.1).isOk) ∧
    (∀ call reply, (call, reply) ∈ run.1 → ∀ id, reply.MayGive id →
      (Uuid.parse id).isOk ∧
      ∀ entropy request laptop, request.laptop = some laptop → laptop.id = id →
        ∃ status, (create store entropy request run.2).1.answer = .error status ∧
          status.code = .alreadyExists ∧ (create store entropy request run.2).2 = run.2) ∧
    recorded.1 = run.1 ∧ recorded.2.1 = run.2 ∧
    ∀ laptop, .saved laptop (.failed .emptyId) ∉ recorded.2.2 := by
  intro store run recorded
  have hkeeps : Keeps (createdIds run.1) run.2 := keeps_runAll listing buffer calls
  have hrecorded : recorded = (run.1, run.2, answersDuring store buffer calls .empty) :=
    runAll_recording store buffer calls .empty []
  refine ⟨?_, ?_, ?_, ?_, ?_⟩
  · intro entry hentry
    have hid : entry.1 ∈ createdIds run.1 := by
      rw [hkeeps.keyed entry hentry]
      exact hkeeps.id_mem hentry
    obtain ⟨uuid, huuid⟩ := exists_of_isOk (hkeeps.uuids entry.1 hid)
    exact ⟨hkeeps.keyed entry hentry, Uuid.ne_empty_of_parse_eq huuid, hkeeps.uuids entry.1 hid⟩
  · intro call reply hmem id hgive
    obtain ⟨before, after, rfl, rfl⟩ := exists_at_of_mem_runAll _ hmem
    -- the id was kept when the call was over, and what is kept stays
    have hthen :
        id ∈ createdIds (runAll (Call.perform store buffer) (before ++ [call]) .empty).1 := by
      rw [runAll_snoc, createdIds_append, createdIds_cons]
      simpa [createdIds] using (keeps_runAll listing buffer before).mem_of_mayGive hgive
    have hnow : id ∈ createdIds run.1 := by
      have hgrows := createdIds_runAll_append store buffer (before ++ [call]) after .empty
      rw [List.append_assoc, List.singleton_append] at hgrows
      exact hgrows.subset hthen
    exact ⟨hkeeps.uuids id hnow, fun entropy request laptop hlaptop hsame =>
      hkeeps.create_refused hnow hlaptop hsame entropy⟩
  · rw [hrecorded]
  · rw [hrecorded]
  · intro laptop hmem
    rw [hrecorded] at hmem
    obtain ⟨before, call, after, _, hanswer⟩ := exists_of_mem_answersDuring store buffer hmem
    exact emptyId_notMem_answers listing buffer call _ laptop hanswer

/-- A client takes an id that was made for a record out of a search, and asks for another record to
be stored under it. -/
theorem told_ids_are_uuids_generated :
    let entropy : Uuid := ⟨List.replicate 16 0, rfl⟩
    let id := entropy.version4.text
    let before : List Call := [.create entropy { laptop := some {} }]
    let calls : List Call := before ++ .search {} :: []
    let again : CreateRequest := { laptop := some { id, brand := "another" } }
    (∃ reply, (.search {}, reply) ∈
        (runAll (Call.perform (Catalogue.storeBy .bySaving) 0) calls .empty).1 ∧
      reply.MayGive id) ∧
    (Uuid.parse id).isOk ∧
    ∃ status : Status,
      (create (Catalogue.storeBy .bySaving) entropy again
        (runAll (Call.perform (Catalogue.storeBy .bySaving) 0) calls .empty).2).1.answer =
          Except.error status ∧
        status.code = .alreadyExists := by
  intro entropy id before calls again
  obtain ⟨_, htold, _⟩ := told_ids_are_uuids .bySaving 0 calls
  have hmem := List.mem_of_getElem?
    (runAll_at (Call.perform (Catalogue.storeBy .bySaving) 0) before [] (.search {}) .empty)
  let catalogue := (runAll (Call.perform (Catalogue.storeBy .bySaving) 0) before .empty).2
  have hscanned : { id } ∈ (catalogue.scanBy .bySaving {}).laptops := by
    decide +kernel +zetaReduce
  -- a client that reads the stream to its end receives the laptop
  have hgive : Reply.MayGive
      (Call.perform (Catalogue.storeBy .bySaving) 0 (.search {}) catalogue).1 id := by
    have hreads := Stream.readAll_readsTo 0 (catalogue.scanBy .bySaving {})
    have hreceived := hreads.received_eq
    obtain ⟨moves, _, hmoves, _⟩ := hreads
    refine ⟨moves, _, { id }, hmoves, ?_, rfl⟩
    rw [hreceived]
    exact List.mem_append_left _ (List.mem_map_of_mem hscanned)
  obtain ⟨hparse, hrefused⟩ := htold _ _ hmem id hgive
  obtain ⟨status, hanswer, hcode, _⟩ := hrefused entropy again _ rfl rfl
  exact ⟨⟨_, hmem, hgive⟩, hparse, status, hanswer, hcode⟩

end LaptopCatalogue.Service
