import LaptopCatalogue.Proofs.Store.Enumeration
import LaptopCatalogue.Proofs.Stream.Delivery

/-!
# The calls of a search

The store's receiver is called once for each laptop that is handed over. A call is answered when the
laptop is put into the channel, or when the client is found gone. At every moment the calls so far
are those of the first laptops, and all of them but the last one at most have been sent.

* `Stream.callsDuring` are the calls of the store's receiver, with their answers.
* `Stream.Accounts` is the invariant: how these calls, the laptops handed over and those put into
  the channel belong together.
* `Stream.Accounts.calls_eq` and `Stream.run_acceptFirst`: the calls at the end, and that a search
  in one go has the same.
-/

namespace LaptopCatalogue.Stream

open Scan (Calls accepted acceptFirst noting)

/-! ## The calls of the receiver -/

/-- The call of a receiver whose client is gone. -/
def refused (laptop : Laptop) : Laptop × Except StoreError Unit :=
  (laptop, .error (.cancelled clientGone))

/-- The call of the store's receiver that is answered by a move. -/
def answeredBy (stream : Stream) : Move → Calls
  | .advance =>
    match stream.phase with
    | .sending laptop => [if stream.connected then accepted laptop else refused laptop]
    | _ => []
  | .receive | .leave => []

/-- The calls of the store's receiver that are answered during moves. -/
def callsDuring : List Move → Stream → Calls
  | [], _ => []
  | move :: moves, stream =>
    match stream.step? move with
    | some next => stream.answeredBy move ++ callsDuring moves next
    | none => []

/-- The calls of a receiver that accepts so many laptops more and then refuses. -/
theorem handOver_acceptFirst_noting (laptops : List Laptop) (made room : Nat) (calls : Calls) :
    Scan.handOver (noting (acceptFirst (made + room) (.cancelled clientGone))) laptops
        (made, calls) =
      (if room < laptops.length then .error (.cancelled clientGone) else .ok (),
        made + min laptops.length (room + 1),
        calls ++ ((laptops.take room).map accepted ++ (laptops[room]?).toList.map refused)) := by
  induction laptops generalizing made room calls with
  | nil => simp [Scan.handOver]
  | cons laptop laptops ih =>
    cases room with
    | zero =>
      have hcall : noting (acceptFirst made (.cancelled clientGone)) laptop (made, calls) =
          (.error (.cancelled clientGone), made + 1, calls ++ [refused laptop]) := by
        simp [noting, acceptFirst, refused]
      simp [Scan.handOver, hcall]
    | succ room =>
      have hcall : noting (acceptFirst (made + (room + 1)) (.cancelled clientGone)) laptop
          (made, calls) = (.ok (), made + 1, calls ++ [accepted laptop]) := by
        simp [noting, acceptFirst, accepted]
      have hrest := ih (made + 1) room (calls ++ [accepted laptop])
      rw [Nat.add_right_comm, Nat.add_assoc made room 1] at hrest
      simp only [Scan.handOver, hcall, hrest]
      simp [Nat.add_min_add_right, Nat.add_assoc, Nat.add_comm 1]

/-- The search in one go with a receiver that accepts so many laptops and then refuses. -/
theorem run_acceptFirst (scan : Scan) (limit : Nat) :
    scan.run (noting (acceptFirst limit (.cancelled clientGone))) (0, []) =
      (if limit < scan.laptops.length then .failed (.cancelled clientGone) else scan.ending,
        min scan.laptops.length (limit + 1),
        (scan.laptops.take limit).map accepted ++ (scan.laptops[limit]?).toList.map refused) := by
  have hhanded := handOver_acceptFirst_noting scan.laptops 0 limit []
  rw [Nat.zero_add, Nat.zero_add, List.nil_append] at hhanded
  by_cases hmore : limit < scan.laptops.length
  · rw [if_pos hmore] at hhanded ⊢
    exact Scan.run_of_refused hhanded
  · rw [if_neg hmore] at hhanded ⊢
    exact Scan.run_of_accepted hhanded

/-! ## The invariant -/

/-- Where the calls of the receiver stand in each phase, when so many laptops were handed over and
so many put into the channel. -/
inductive Answered (laptops : List Laptop) (visits sent : Nat) : Phase → Calls → Prop where
  /-- Each call so far has put its laptop into the channel. -/
  | ready (hvisits : visits = sent) :
      Answered laptops visits sent .scanning ((laptops.take sent).map accepted)
  /-- One call has yet to be answered. -/
  | waiting {laptop : Laptop} (hlaptop : laptops[sent]? = some laptop)
      (hvisits : visits = sent + 1) :
      Answered laptops visits sent (.sending laptop) ((laptops.take sent).map accepted)
  /-- Every laptop has been put into the channel, and a failure remains to be told. -/
  | failing {error : StoreError} (hsent : sent = laptops.length) (hvisits : visits = sent) :
      Answered laptops visits sent (.reporting error) (laptops.map accepted)
  /-- Every laptop has been put into the channel. -/
  | through (hsent : sent = laptops.length) (hvisits : visits = sent) :
      Answered laptops visits sent .ended (laptops.map accepted)
  /-- The last call has found the client gone. -/
  | stopped {laptop : Laptop} (hlaptop : laptops[sent]? = some laptop)
      (hvisits : visits = sent + 1) :
      Answered laptops visits sent .ended ((laptops.take sent).map accepted ++ [refused laptop])

/-- The laptops handed over are the first ones. While the client is there, those that were sent have
been received or are in the channel, where a failure may follow all laptops. -/
structure Accounts (laptops : List Laptop) (calls : Calls) (stream : Stream) : Prop where
  rest : stream.scan.laptops = laptops.drop stream.visits
  within : stream.visits ≤ laptops.length
  answered : Answered laptops stream.visits stream.sent stream.phase calls
  arrived : stream.connected = true →
    stream.sent = min laptops.length (stream.received.length + stream.channel.length)

theorem accounts_start (buffer : Nat) (scan : Scan) :
    Accounts scan.laptops [] (start buffer scan) := by
  refine ⟨rfl, Nat.zero_le _, .ready rfl, ?_⟩
  intro _
  exact (Nat.min_zero _).symm

/-- The end of the scan changes neither what was handed over nor what was sent. -/
theorem finish_counts (stream : Stream) (outcome : Outcome Unit) :
    (stream.finish outcome).scan = stream.scan ∧
    (stream.finish outcome).visits = stream.visits ∧
    (stream.finish outcome).sent = stream.sent := by
  unfold finish
  split <;> exact ⟨rfl, rfl, rfl⟩

@[simp] theorem finish_scan (stream : Stream) (outcome : Outcome Unit) :
    (stream.finish outcome).scan = stream.scan :=
  (finish_counts stream outcome).1

@[simp] theorem finish_visits (stream : Stream) (outcome : Outcome Unit) :
    (stream.finish outcome).visits = stream.visits :=
  (finish_counts stream outcome).2.1

@[simp] theorem finish_sent (stream : Stream) (outcome : Outcome Unit) :
    (stream.finish outcome).sent = stream.sent :=
  (finish_counts stream outcome).2.2

theorem finish_phase (stream : Stream) (outcome : Outcome Unit) :
    (stream.finish outcome).phase = .ended ∨
      ∃ error, (stream.finish outcome).phase = .reporting error := by
  unfold finish
  split
  · exact Or.inl rfl
  · exact Or.inl rfl
  · exact Or.inr ⟨_, rfl⟩
  · exact Or.inl rfl

/-- Every step keeps the accounts, with the call that it answers. -/
theorem Accounts.step {laptops : List Laptop} {calls : Calls} {stream next : Stream} {move : Move}
    (h : Accounts laptops calls stream) (hstep : Step stream move next) :
    Accounts laptops (calls ++ stream.answeredBy move) next := by
  obtain ⟨hrest, hwithin, hanswered, harrived⟩ := h
  cases hstep with
  | @visit laptop rest hphase hlaptops =>
    rw [hphase] at hanswered
    cases hanswered with
    | ready hvisits =>
      rw [hlaptops] at hrest
      have hlaptop : laptops[stream.visits]? = some laptop := by
        rw [← List.head?_drop, ← hrest]
        rfl
      have hnext : stream.visits < laptops.length := (List.getElem?_eq_some_iff.mp hlaptop).1
      have hnone : stream.answeredBy .advance = [] := by simp [answeredBy, hphase]
      refine ⟨by simpa using congrArg List.tail hrest, hnext, ?_, harrived⟩
      rw [hnone, List.append_nil]
      exact .waiting (hvisits ▸ hlaptop) (congrArg (· + 1) hvisits)
  | finish hphase hlaptops =>
    rw [hphase] at hanswered
    cases hanswered with
    | ready hvisits =>
      -- nothing is left to hand over, so everything was handed over and sent
      have hsent : stream.sent = laptops.length := by
        rw [hlaptops] at hrest
        have hle := List.drop_eq_nil_iff.mp hrest.symm
        omega
      have hnone : stream.answeredBy .advance = [] := by simp [answeredBy, hphase]
      refine ⟨by simpa using hrest, by simpa using hwithin, ?_, by simpa using harrived⟩
      rw [hnone, List.append_nil, finish_visits, finish_sent, hsent, List.take_length]
      rcases finish_phase stream stream.scan.ending with hended | ⟨error, hreporting⟩
      · rw [hended]
        exact .through rfl (hvisits.trans hsent)
      · rw [hreporting]
        exact .failing rfl (hvisits.trans hsent)
  | @refuse laptop hphase hgone =>
    rw [hphase] at hanswered
    cases hanswered with
    | waiting hlaptop hvisits =>
      have hcall : stream.answeredBy .advance = [refused laptop] := by
        simp [answeredBy, hphase, hgone]
      refine ⟨by simpa using hrest, by simpa using hwithin, ?_, by simpa using harrived⟩
      rw [hcall, finish_visits, finish_sent]
      exact .stopped hlaptop hvisits
  | @send laptop hphase hconnected hroom =>
    rw [hphase] at hanswered
    cases hanswered with
    | waiting hlaptop hvisits =>
      have hcall : stream.answeredBy .advance = [accepted laptop] := by
        simp [answeredBy, hphase, hconnected]
      have hcalls : (laptops.take stream.sent).map accepted ++ [accepted laptop] =
          (laptops.take (stream.sent + 1)).map accepted := by
        simp [List.take_add_one, hlaptop]
      refine ⟨hrest, hwithin, ?_, ?_⟩
      · rw [hcall, hcalls]
        exact .ready hvisits
      · intro _
        have hsent := harrived hconnected
        have hless : stream.sent < laptops.length := (List.getElem?_eq_some_iff.mp hlaptop).1
        simp only [List.length_append, List.length_cons, List.length_nil]
        omega
  | keepBack hphase hgone =>
    rw [hphase] at hanswered
    cases hanswered with
    | failing hsent hvisits =>
      have hnone : stream.answeredBy .advance = [] := by simp [answeredBy, hphase]
      refine ⟨hrest, hwithin, ?_, harrived⟩
      rw [hnone, List.append_nil]
      exact .through hsent hvisits
  | report hphase hconnected hroom =>
    rw [hphase] at hanswered
    cases hanswered with
    | failing hsent hvisits =>
      have hnone : stream.answeredBy .advance = [] := by simp [answeredBy, hphase]
      refine ⟨hrest, hwithin, ?_, ?_⟩
      · rw [hnone, List.append_nil]
        exact .through hsent hvisits
      · intro _
        have hmin := harrived hconnected
        simp only [close, List.length_append]
        omega
  | receive hconnected hchannel =>
    refine ⟨hrest, hwithin, by simpa [answeredBy] using hanswered, ?_⟩
    intro _
    have hsent := harrived hconnected
    rw [hchannel, List.length_cons] at hsent
    simp only [List.length_append, List.length_cons, List.length_nil]
    omega
  | leave hconnected =>
    exact ⟨hrest, hwithin, by simpa [answeredBy] using hanswered, by simp⟩

/-- Moves keep the accounts, with the calls that are answered during them. -/
theorem Accounts.after {laptops : List Laptop} {calls : Calls} {moves : List Move}
    {stream final : Stream} (h : Accounts laptops calls stream)
    (hmoves : stream.after? moves = some final) :
    Accounts laptops (calls ++ callsDuring moves stream) final := by
  induction moves generalizing calls stream with
  | nil =>
    cases hmoves
    simpa [callsDuring] using h
  | cons move moves ih =>
    obtain ⟨next, hnext, hrest⟩ := Option.bind_eq_some_iff.mp hmoves
    simpa [callsDuring, hnext] using ih (h.step (step_of_step? hnext)) hrest

/-- Of the laptops that were handed over, one at most was not sent. -/
theorem Accounts.visits_bounds {laptops : List Laptop} {calls : Calls} {stream : Stream}
    (h : Accounts laptops calls stream) :
    stream.sent ≤ stream.visits ∧ stream.visits ≤ stream.sent + 1 := by
  have hanswered := h.answered
  generalize stream.phase = phase at hanswered
  cases hanswered with
  | ready hvisits => omega
  | waiting _ hvisits => omega
  | failing _ hvisits => omega
  | through _ hvisits => omega
  | stopped _ hvisits => omega

/-- When all laptops were handed over, all were accepted. -/
theorem Accounts.calls_of_handed_over {laptops : List Laptop} {calls : Calls} {stream : Stream}
    (h : Accounts laptops calls stream) (hphase : stream.phase = .scanning)
    (hlaptops : stream.scan.laptops = []) :
    stream.sent = laptops.length ∧ calls = laptops.map accepted := by
  have hanswered := h.answered
  rw [hphase] at hanswered
  cases hanswered with
  | ready hvisits =>
    have hrest := h.rest
    have hwithin := h.within
    rw [hlaptops] at hrest
    have hle := List.drop_eq_nil_iff.mp hrest.symm
    have hsent : stream.sent = laptops.length := by omega
    exact ⟨hsent, by rw [hsent, List.take_length]⟩

/-- While a laptop is to be sent, those before it were accepted. -/
theorem Accounts.calls_of_sending {laptops : List Laptop} {calls : Calls} {stream : Stream}
    {laptop : Laptop} (h : Accounts laptops calls stream)
    (hphase : stream.phase = .sending laptop) :
    laptops[stream.sent]? = some laptop ∧ calls = (laptops.take stream.sent).map accepted := by
  have hanswered := h.answered
  rw [hphase] at hanswered
  cases hanswered with
  | waiting hlaptop _ => exact ⟨hlaptop, rfl⟩

/-- The calls of a search whose scan is over and that sent what a limit allows: so many were
accepted, and if there was another laptop, it was refused. -/
theorem Accounts.calls_eq {laptops : List Laptop} {calls : Calls} {stream : Stream} {limit : Nat}
    (h : Accounts laptops calls stream) (hended : stream.phase = .ended)
    (hsent : stream.sent = min laptops.length limit) :
    calls = (laptops.take limit).map accepted ++ (laptops[limit]?).toList.map refused ∧
      stream.visits = min laptops.length (limit + 1) := by
  have hanswered := h.answered
  rw [hended] at hanswered
  cases hanswered with
  | through hall hvisits =>
    have hle : laptops.length ≤ limit := by omega
    refine ⟨?_, by omega⟩
    simp [List.take_of_length_le hle, List.getElem?_eq_none hle]
  | stopped hlaptop hvisits =>
    have hless : stream.sent < laptops.length := (List.getElem?_eq_some_iff.mp hlaptop).1
    obtain rfl : stream.sent = limit := by omega
    exact ⟨by simp [hlaptop], by omega⟩

/-- The last call was refused exactly if there was a laptop to refuse. -/
theorem getLast?_calls_iff (laptops : List Laptop) (limit : Nat) :
    (∃ laptop, ((laptops.take limit).map accepted ++
        (laptops[limit]?).toList.map refused).getLast? = some (refused laptop)) ↔
      limit < laptops.length := by
  cases hlaptop : laptops[limit]? with
  | some laptop =>
    have hless : limit < laptops.length := (List.getElem?_eq_some_iff.mp hlaptop).1
    simp [hless]
  | none =>
    have hall : laptops.length ≤ limit := List.getElem?_eq_none_iff.mp hlaptop
    refine iff_of_false ?_ (by omega)
    rintro ⟨laptop, hlast⟩
    have hmem := List.mem_of_getLast? hlast
    rw [Option.toList_none, List.map_nil, List.append_nil] at hmem
    obtain ⟨_, _, hcall⟩ := List.mem_map.mp hmem
    simp [accepted, refused] at hcall

end LaptopCatalogue.Stream
