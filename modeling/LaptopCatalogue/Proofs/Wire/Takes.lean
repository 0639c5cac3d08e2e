import LaptopCatalogue.Proofs.Wire.Grammar

/-!
# Readers and grammars

A reader looks at everything that is left of the input, while the grammar speaks of the bytes of one
value. A reader takes a grammar when it accepts exactly the inputs that begin with a spelling, gives
its value, and leaves what follows. Readers are put together from smaller ones, and what they take
is put together in the same way.

* `Takes`, `Skips`: the relation between a reader and a grammar.
* `Takes.bind`, `Takes.put`, `Takes.ite`: one reader after another, inside of another, or instead of
  another.
* `takes_readKey`, `Scalar.takes_read`: the readers of keys and scalars take their spellings.
-/

namespace LaptopCatalogue.Wire

variable {α β σ : Type}

/-- A reader accepts exactly the inputs that begin with a spelling, gives what it spells, and leaves
what follows it. -/
def Takes (read : Bytes → Except Failure (α × Bytes)) (spells : Bytes → α → Prop) : Prop :=
  ∀ bs v rest, read bs = .ok (v, rest) ↔ ∃ used, bs = used ++ rest ∧ spells used v

/-- The same for a reader that gives no value. -/
def Skips (skip : Bytes → Except Failure Bytes) (spells : Bytes → Prop) : Prop :=
  ∀ bs rest, skip bs = .ok rest ↔ ∃ used, bs = used ++ rest ∧ spells used

@[simp] theorem refuse_ne_ok (cause : Cause) (v : α) : (refuse cause : Except Failure α) ≠ .ok v :=
  fun h => nomatch h

@[simp] theorem inField_eq_ok_iff (name : FieldName) (result : Except Failure α) (v : α) :
    inField name result = .ok v ↔ result = .ok v := by
  cases result with
  | ok a => exact Iff.rfl
  | error failure =>
    constructor
    · intro h
      cases h
    · intro h
      cases h

theorem bind_eq_ok_iff {x : Except Failure α} {f : α → Except Failure β} {b : β} :
    x >>= f = .ok b ↔ ∃ a, x = .ok a ∧ f a = .ok b := by
  cases x with
  | ok a => simp [bind, Except.bind]
  | error failure => simp [bind, Except.bind]

theorem map_eq_ok_iff {x : Except Failure α} {f : α → β} {b : β} :
    x.map f = .ok b ↔ ∃ a, x = .ok a ∧ f a = b := by
  cases x with
  | ok a => simp [Except.map]
  | error failure => simp [Except.map]

@[simp] theorem expect_eq_ok_iff (expected found : WireType) (u : Unit) :
    expect expected found = .ok u ↔ found = expected := by
  unfold expect
  split <;> simp_all

namespace Takes

variable {read : Bytes → Except Failure (α × Bytes)} {spells : Bytes → α → Prop}

theorem sound (h : Takes read spells) {bs rest : Bytes} {v : α} (hread : read bs = .ok (v, rest)) :
    ∃ used, bs = used ++ rest ∧ spells used v :=
  (h bs v rest).mp hread

theorem complete (h : Takes read spells) {used : Bytes} {v : α} (hspells : spells used v)
    (rest : Bytes) : read (used ++ rest) = .ok (v, rest) :=
  (h (used ++ rest) v rest).mpr ⟨used, rfl, hspells⟩

/-- An input of which nothing is left is a spelling. -/
theorem whole (h : Takes read spells) {used : Bytes} {v : α} (hread : read used = .ok (v, [])) :
    spells used v := by
  obtain ⟨used', heq, hspells⟩ := h.sound hread
  rw [List.append_nil] at heq
  exact heq ▸ hspells

/-- An input begins with one spelling at most. -/
theorem unique (h : Takes read spells) {used used' rest rest' : Bytes} {v v' : α}
    (hspells : spells used v) (hspells' : spells used' v')
    (heq : used ++ rest = used' ++ rest') : used = used' ∧ v = v' ∧ rest = rest' := by
  have hread := h.complete hspells rest
  rw [heq, h.complete hspells' rest', Except.ok.injEq, Prod.mk.injEq] at hread
  obtain ⟨rfl, rfl⟩ := hread
  exact ⟨List.append_cancel_right heq, rfl, rfl⟩

theorem congr {spells' : Bytes → α → Prop} (h : Takes read spells)
    (heq : ∀ used v, spells used v ↔ spells' used v) : Takes read spells' := by
  intro bs v rest
  simp only [h bs v rest, heq]

theorem inField (name : FieldName) (h : Takes read spells) :
    Takes (fun bs => Wire.inField name (read bs)) spells := by
  intro bs v rest
  simp only [inField_eq_ok_iff, h bs v rest]

/-- A reader behind a check of the wire type. -/
theorem expecting (h : Takes read spells) (expected found : WireType) :
    Takes (fun bs => do
        expect expected found
        read bs)
      (fun used v => found = expected ∧ spells used v) := by
  intro bs v rest
  simp only [bind_eq_ok_iff, expect_eq_ok_iff, h bs v rest]
  grind

/-- One reader after the other. -/
theorem bind {next : α → Bytes → Except Failure (β × Bytes)} {spells' : α → Bytes → β → Prop}
    (h : Takes read spells) (hnext : ∀ v, Takes (next v) (spells' v)) :
    Takes (fun bs => do
        let (v, bs) ← read bs
        next v bs)
      (fun used w => ∃ v front back, used = front ++ back ∧ spells front v ∧ spells' v back w) := by
  intro bs w rest
  simp only [bind_eq_ok_iff]
  constructor
  · rintro ⟨⟨v, bs'⟩, hread, hrest⟩
    obtain ⟨front, rfl, hfront⟩ := h.sound hread
    obtain ⟨back, rfl, hback⟩ := (hnext v).sound hrest
    exact ⟨front ++ back, by simp, v, front, back, rfl, hfront, hback⟩
  · rintro ⟨used, rfl, v, front, back, rfl, hfront, hback⟩
    refine ⟨(v, back ++ rest), ?_, (hnext v).complete hback rest⟩
    rw [List.append_assoc]
    exact h.complete hfront (back ++ rest)

/-- A reader whose value is put into something else. -/
theorem map (h : Takes read spells) (f : α → β) :
    Takes (fun bs => (read bs).map fun (v, bs) => (f v, bs))
      (fun used w => ∃ v, spells used v ∧ f v = w) := by
  intro bs w rest
  simp only [map_eq_ok_iff, Prod.exists, Prod.mk.injEq, h bs]
  grind

/-- The same, written as a sequence. -/
theorem put (h : Takes read spells) (f : α → β) :
    Takes (fun bs => do
        let (v, bs) ← read bs
        .ok (f v, bs))
      (fun used w => ∃ v, spells used v ∧ f v = w) := by
  intro bs w rest
  simp only [bind_eq_ok_iff, Prod.exists, Except.ok.injEq, Prod.mk.injEq, h bs]
  grind

/-- One reader or another. -/
theorem ite {read' : Bytes → Except Failure (α × Bytes)} {spells' : Bytes → α → Prop}
    (h : Takes read spells) (p : Prop) [Decidable p] (h' : Takes read' spells') :
    Takes (fun bs => if p then read bs else read' bs)
      (fun used v => if p then spells used v else spells' used v) := by
  by_cases hp : p
  · simpa only [if_pos hp] using h
  · simpa only [if_neg hp] using h'

end Takes

theorem Skips.put {skip : Bytes → Except Failure Bytes} {spells : Bytes → Prop}
    (h : Skips skip spells) (v : α) :
    Takes (fun bs => do
        let bs ← skip bs
        .ok (v, bs))
      (fun used w => spells used ∧ v = w) := by
  intro bs w rest
  simp only [bind_eq_ok_iff, Except.ok.injEq, Prod.mk.injEq, h bs]
  grind

theorem Skips.complete {skip : Bytes → Except Failure Bytes} {spells : Bytes → Prop}
    (h : Skips skip spells) {used : Bytes} (hspells : spells used) (rest : Bytes) :
    skip (used ++ rest) = .ok rest :=
  (h (used ++ rest) rest).mpr ⟨used, rfl, hspells⟩

theorem Skips.whole {skip : Bytes → Except Failure Bytes} {spells : Bytes → Prop}
    (h : Skips skip spells) {used : Bytes} (hskip : skip used = .ok []) : spells used := by
  obtain ⟨used', heq, hspells⟩ := (h used []).mp hskip
  rw [List.append_nil] at heq
  exact heq ▸ hspells

theorem Skips.congr {skip : Bytes → Except Failure Bytes} {spells spells' : Bytes → Prop}
    (h : Skips skip spells) (heq : ∀ used, spells used ↔ spells' used) : Skips skip spells' := by
  intro bs rest
  simp only [h bs rest, heq]

theorem Takes.skips {read : Bytes → Except Failure (α × Bytes)} {spells : Bytes → α → Prop}
    (h : Takes read spells) :
    Skips (fun bs => (read bs).map Prod.snd) (fun used => ∃ v, spells used v) := by
  intro bs rest
  simp only [map_eq_ok_iff, Prod.exists, h bs]
  grind

/-! ## Parts of a message -/

theorem takes_readVarint : Takes readVarint Varint.Spells := by
  intro bs n rest
  rw [← Varint.read_eq_some_iff]
  unfold readVarint
  cases Varint.read bs <;> simp

theorem takes_takeBytes (n : Nat) :
    Takes (takeBytes n) (fun used v => used = v ∧ v.length = n) := by
  intro bs v rest
  unfold takeBytes
  split
  · rename_i hshort
    simp only [refuse_ne_ok, false_iff]
    rintro ⟨used, rfl, rfl, rfl⟩
    rw [List.length_append] at hshort
    omega
  · rename_i hlong
    simp only [Except.ok.injEq, Prod.mk.injEq]
    constructor
    · rintro ⟨rfl, rfl⟩
      exact ⟨bs.take n, (List.take_append_drop n bs).symm, rfl, by simp; omega⟩
    · rintro ⟨used, rfl, rfl, rfl⟩
      simp

theorem takes_takeDelimited : Takes takeDelimited Delimited := by
  refine (takes_readVarint.bind fun length => takes_takeBytes length.toNat).congr ?_
  intro used payload
  constructor
  · rintro ⟨length, front, back, rfl, hlength, rfl, hcount⟩
    refine ⟨⟨front, rfl, ?_⟩, hcount ▸ length.toNat_lt⟩
    rw [hcount, UInt64.ofNat_toNat]
    exact hlength
  · rintro ⟨⟨length, rfl, hlength⟩, hfits⟩
    exact ⟨_, length, payload, rfl, hlength, rfl, (UInt64.toNat_ofNat_of_lt' hfits).symm⟩

theorem WireType.ofCode?_eq_some_iff (code : Nat) (wireType : WireType) :
    WireType.ofCode? code = some wireType ↔ code = wireType.code := by
  constructor
  · intro h
    unfold WireType.ofCode? at h
    split at h <;> cases h <;> rfl
  · rintro rfl
    exact WireType.ofCode?_code wireType

theorem WireType.code_lt (wireType : WireType) : wireType.code < 8 := by
  cases wireType <;> decide

/-- What a key says once its varint is read. -/
theorem takes_keyParts (key : UInt64) :
    Takes (fun bs =>
        if maxKey < key.toNat then refuse (.invalidKey key)
        else match WireType.ofCode? (key.toNat % 8) with
          | none => refuse (.invalidWireType (key.toNat % 8))
          | some wireType =>
            if key.toNat / 8 = 0 then refuse .zeroFieldNumber
            else .ok ((key.toNat / 8, wireType), bs))
      (fun used (parts : Nat × WireType) =>
        used = [] ∧ key.toNat = 8 * parts.1 + parts.2.code ∧ 0 < parts.1 ∧ key.toNat ≤ maxKey) := by
  rintro bs ⟨number, wireType⟩ rest
  have hcode := wireType.code_lt
  -- the cases follow the order in which a key is refused: too large, no wire type, no number
  by_cases hlarge : maxKey < key.toNat
  · simp only [hlarge, if_true, refuse_ne_ok, false_iff]
    rintro ⟨used, -, -, -, -, hfits⟩
    omega
  · cases hwire : WireType.ofCode? (key.toNat % 8) with
    | none =>
      simp only [hlarge, if_false, refuse_ne_ok, false_iff]
      rintro ⟨used, -, -, hkey, -, -⟩
      rw [show key.toNat % 8 = wireType.code by omega, WireType.ofCode?_code] at hwire
      cases hwire
    | some found =>
      have hfound := (WireType.ofCode?_eq_some_iff _ _).mp hwire
      by_cases hzero : key.toNat / 8 = 0
      · simp only [hlarge, if_false, hzero, if_true, refuse_ne_ok, false_iff]
        rintro ⟨used, -, -, hkey, hpos, -⟩
        omega
      · simp only [hlarge, if_false, hzero, Except.ok.injEq, Prod.mk.injEq]
        constructor
        · rintro ⟨⟨rfl, rfl⟩, rfl⟩
          exact ⟨[], rfl, rfl, by omega, by omega, by omega⟩
        · rintro ⟨used, rfl, rfl, hkey, hpos, hfits⟩
          refine ⟨⟨by omega, ?_⟩, rfl⟩
          rw [show key.toNat % 8 = wireType.code by omega, WireType.ofCode?_code] at hwire
          exact (Option.some.inj hwire).symm

theorem takes_readKey :
    Takes readKey (fun used (key : Nat × WireType) => SpellsKey used key.1 key.2) := by
  refine (takes_readVarint.bind takes_keyParts).congr ?_
  rintro used ⟨number, wireType⟩
  constructor
  · rintro ⟨key, front, back, rfl, hkey, rfl, hparts, hpos, hfits⟩
    refine ⟨?_, hpos, hparts ▸ hfits⟩
    rw [List.append_nil, ← hparts, UInt64.ofNat_toNat]
    exact hkey
  · rintro ⟨hkey, hpos, hfits⟩
    have hvalue : (UInt64.ofNat (8 * number + wireType.code)).toNat = 8 * number + wireType.code :=
      UInt64.toNat_ofNat_of_lt' (Nat.lt_of_le_of_lt hfits (by decide))
    exact ⟨_, used, [], (List.append_nil used).symm, hkey, rfl, hvalue, hpos,
      Nat.le_trans (Nat.le_of_eq hvalue) hfits⟩

/-! ## Scalars -/

theorem length_littleEndian (width n : Nat) : (littleEndian width n).length = width := by
  induction width generalizing n with
  | zero => rfl
  | succ width ih => simp [littleEndian, ih]

theorem littleEndian_ofLittleEndian (bs : Bytes) :
    littleEndian bs.length (ofLittleEndian bs) = bs := by
  induction bs with
  | nil => rfl
  | cons b bs ih =>
    have hb := b.toNat_lt
    have hlow : (b.toNat + 256 * ofLittleEndian bs) % 256 = b.toNat := by omega
    have hhigh : (b.toNat + 256 * ofLittleEndian bs) / 256 = ofLittleEndian bs := by omega
    simp [ofLittleEndian, littleEndian, hlow, hhigh, ih]

theorem ofLittleEndian_littleEndian {width n : Nat} (h : n < Nat.pow 256 width) :
    ofLittleEndian (littleEndian width n) = n := by
  induction width generalizing n with
  | zero =>
    rw [show Nat.pow 256 0 = 1 from rfl] at h
    simp only [littleEndian, ofLittleEndian]
    omega
  | succ width ih =>
    rw [show Nat.pow 256 (width + 1) = Nat.pow 256 width * 256 from rfl] at h
    simp only [littleEndian, ofLittleEndian, UInt8.toNat_ofNat', ih (n := n / 256) (by omega)]
    omega

theorem ofLittleEndian_lt (bs : Bytes) : ofLittleEndian bs < Nat.pow 256 bs.length := by
  induction bs with
  | nil => decide
  | cons b bs ih =>
    have hb := b.toNat_lt
    rw [List.length_cons, show Nat.pow 256 (bs.length + 1) = Nat.pow 256 bs.length * 256 from rfl]
    simp only [ofLittleEndian]
    omega

/-- A text is read from the bytes behind its length. -/
theorem takes_text (payload : Bytes) :
    Takes (fun bs =>
        match textOfBytes? payload with
        | some text => .ok (text, bs)
        | none => refuse .notUtf8)
      (fun used text => used = [] ∧ payload = textBytes text) := by
  intro bs text rest
  have hiff := textOfBytes?_eq_some_iff payload text
  cases htext : textOfBytes? payload with
  | some found =>
    rw [htext, Option.some.injEq] at hiff
    simp only [Except.ok.injEq, Prod.mk.injEq, hiff]
    constructor
    · rintro ⟨hpayload, rfl⟩
      exact ⟨[], rfl, rfl, hpayload⟩
    · rintro ⟨used, rfl, rfl, hpayload⟩
      exact ⟨hpayload, rfl⟩
  | none =>
    rw [htext] at hiff
    simp only [refuse_ne_ok, false_iff]
    rintro ⟨used, -, -, hpayload⟩
    cases hiff.mpr hpayload

/-- Bytes spell a fixed-size number exactly if they are as many as it has and read as it. -/
theorem eq_littleEndian_iff {width n : Nat} (h : n < Nat.pow 256 width) (bs : Bytes) :
    bs = littleEndian width n ↔ bs.length = width ∧ ofLittleEndian bs = n := by
  constructor
  · rintro rfl
    exact ⟨length_littleEndian width n, ofLittleEndian_littleEndian h⟩
  · rintro ⟨rfl, rfl⟩
    exact (littleEndian_ofLittleEndian bs).symm

/-- A fixed-size number is read from its bytes, the lowest first. -/
theorem takes_fixed {width : Nat} (make : Nat → α) {bits : α → Nat}
    (hbits : ∀ v, bits v < Nat.pow 256 width) (hmake : ∀ v, make (bits v) = v)
    (hof : ∀ n, n < Nat.pow 256 width → bits (make n) = n) :
    Takes (fun bs => (takeBytes width bs).map fun (payload, bs) =>
        (make (ofLittleEndian payload), bs))
      (fun used v => used = littleEndian width (bits v)) := by
  refine ((takes_takeBytes width).map fun payload => make (ofLittleEndian payload)).congr ?_
  intro used v
  rw [eq_littleEndian_iff (hbits v)]
  constructor
  · rintro ⟨payload, ⟨rfl, rfl⟩, rfl⟩
    exact ⟨rfl, (hof _ (ofLittleEndian_lt used)).symm⟩
  · rintro ⟨hlength, hvalue⟩
    exact ⟨used, ⟨rfl, hlength⟩, by rw [hvalue, hmake]⟩

theorem Scalar.takes_readPayload (kind : Scalar) : Takes kind.readPayload kind.Spells := by
  cases kind with
  | text =>
    refine (takes_takeDelimited.bind takes_text).congr ?_
    intro used text
    constructor
    · rintro ⟨payload, front, back, rfl, hdelimited, rfl, rfl⟩
      rw [List.append_nil]
      exact hdelimited
    · intro hdelimited
      exact ⟨_, used, [], (List.append_nil used).symm, hdelimited, rfl, rfl⟩
  | uint32 => exact takes_readVarint.map UInt64.toUInt32
  | uint64 => exact takes_readVarint
  | int64 => exact takes_readVarint.map UInt64.toInt64
  | enumeration => exact takes_readVarint.map fun n => n.toUInt32.toInt32
  | bool => exact takes_readVarint.map fun n => n != 0
  | float =>
    exact takes_fixed (fun n => Binary32.mk (UInt32.ofNat n)) (fun v => v.bits.toNat_lt)
      (fun v => by rw [UInt32.ofNat_toNat]) (fun n hn => UInt32.toNat_ofNat_of_lt' hn)
  | double =>
    exact takes_fixed (fun n => Binary64.mk (UInt64.ofNat n)) (fun v => v.bits.toNat_lt)
      (fun v => by rw [UInt64.ofNat_toNat]) (fun n hn => UInt64.toNat_ofNat_of_lt' hn)

theorem Scalar.takes_read (kind : Scalar) (found : WireType) :
    Takes (kind.read found) (fun used v => found = kind.wireType ∧ kind.Spells used v) :=
  kind.takes_readPayload.expecting kind.wireType found

end LaptopCatalogue.Wire
