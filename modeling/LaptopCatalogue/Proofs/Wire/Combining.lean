import LaptopCatalogue.Proofs.Wire.Sizes

/-!
# Combining messages

What one message makes of another, field by field: a value that would be written replaces the one
that is there, a nested message is combined with the one that is there, and a list is appended.

* `Schema.combine`, `combine`: the combination of two messages.
* `Schema.combine_assoc`: combining messages does not depend on grouping.
* `Schema.combine_empty`: a message in which nothing is set changes nothing.
-/

namespace LaptopCatalogue.Wire

namespace Scalar

/-- The second value, unless it would be left out of a message. -/
def override (kind : Scalar) (v w : kind.Value) : kind.Value :=
  if kind.isDefault w then v else w

theorem override_of_isDefault {kind : Scalar} (v : kind.Value) {w : kind.Value}
    (h : kind.isDefault w = true) : kind.override v w = v :=
  if_pos h

theorem override_of_not_isDefault {kind : Scalar} (v : kind.Value) {w : kind.Value}
    (h : ¬kind.isDefault w = true) : kind.override v w = w :=
  if_neg h

theorem override_assoc (kind : Scalar) (v w x : kind.Value) :
    kind.override (kind.override v w) x = kind.override v (kind.override w x) := by
  by_cases hx : kind.isDefault x = true
  · rw [override_of_isDefault _ hx, override_of_isDefault w hx]
  · rw [override_of_not_isDefault _ hx, override_of_not_isDefault w hx,
      override_of_not_isDefault v hx]

end Scalar

namespace Schema

/-- The combination of two messages. The members of a list that are appended are combined with the
empty message, as a nested message is where there was none. -/
def combine : (schema : Schema) → schema.Record → schema.Record → schema.Record
  | .done, _, _ => ()
  | .plain _ _ kind rest, (v, r), (v', r') => (kind.override v v', rest.combine r r')
  | .optional _ _ _ rest, (v, r), (v', r') => (v'.or v, rest.combine r r')
  | .choice _ _ _ _ _ rest, (v, r), (v', r') => (v'.or v, rest.combine r r')
  | .message _ _ inner rest, (m, r), (m', r') =>
    (match m' with
      | none => m
      | some m' => some (inner.combine (m.getD inner.empty) m'), rest.combine r r')
  | .repeated _ _ inner rest, (ms, r), (ms', r') =>
    (ms ++ ms'.map (inner.combine inner.empty), rest.combine r r')

/-- A message in which nothing is set changes nothing. -/
theorem combine_empty (schema : Schema) (r : schema.Record) :
    schema.combine r schema.empty = r := by
  induction schema with
  | done => rfl
  | plain name number kind rest ih =>
    obtain ⟨v, r⟩ := r
    simp only [combine, empty, Scalar.override_of_isDefault v kind.isDefault_default, ih r]
    rfl
  | optional name number kind rest ih =>
    obtain ⟨v, r⟩ := r
    simp only [combine, empty, Option.none_or, ih r]
    rfl
  | choice name left leftKind right rightKind rest ih =>
    obtain ⟨v, r⟩ := r
    simp only [combine, empty, Option.none_or, ih r]
    rfl
  | message name number inner rest _ ih =>
    obtain ⟨m, r⟩ := r
    simp only [combine, empty, ih r]
    rfl
  | repeated name number inner rest _ ih =>
    obtain ⟨ms, r⟩ := r
    simp only [combine, empty, List.map_nil, List.append_nil, ih r]
    rfl

theorem combine_assoc (schema : Schema) (r r' r'' : schema.Record) :
    schema.combine (schema.combine r r') r'' = schema.combine r (schema.combine r' r'') := by
  induction schema with
  | done => rfl
  | plain name number kind rest ih =>
    obtain ⟨v, r⟩ := r
    obtain ⟨v', r'⟩ := r'
    obtain ⟨v'', r''⟩ := r''
    simp only [combine, kind.override_assoc, ih]
    rfl
  | optional name number kind rest ih =>
    obtain ⟨v, r⟩ := r
    obtain ⟨v', r'⟩ := r'
    obtain ⟨v'', r''⟩ := r''
    simp only [combine, Option.or_assoc, ih]
    rfl
  | choice name left leftKind right rightKind rest ih =>
    obtain ⟨v, r⟩ := r
    obtain ⟨v', r'⟩ := r'
    obtain ⟨v'', r''⟩ := r''
    simp only [combine, Option.or_assoc, ih]
    rfl
  | message name number inner rest ihInner ih =>
    obtain ⟨m, r⟩ := r
    obtain ⟨m', r'⟩ := r'
    obtain ⟨m'', r''⟩ := r''
    cases m'' with
    | none =>
      simp only [combine, ih]
      rfl
    | some m'' =>
      cases m' with
      | none =>
        -- the last message is combined with the first one, or with the empty one in between
        have hempty := ihInner (m.getD inner.empty) inner.empty m''
        rw [inner.combine_empty] at hempty
        simp only [combine, Option.getD_none, ← hempty, ih]
        rfl
      | some m' =>
        simp only [combine, Option.getD_some, ihInner, ih]
        rfl
  | repeated name number inner rest ihInner ih =>
    obtain ⟨ms, r⟩ := r
    obtain ⟨ms', r'⟩ := r'
    obtain ⟨ms'', r''⟩ := r''
    -- a member that was combined with the empty message is not changed by it once more
    have hagain (m : inner.Record) :
        inner.combine inner.empty (inner.combine inner.empty m) =
          inner.combine inner.empty m := by
      rw [← ihInner, inner.combine_empty]
    simp only [combine, List.map_append, List.map_map, Function.comp_def, hagain,
      List.append_assoc, ih]
    rfl

end Schema

section

variable {α : Type} [Message α]

/-- The combination of two messages, field by field. -/
def combine (m m' : α) : α :=
  Message.ofRecord
    ((Message.schema α).combine (Message.toRecord m) (Message.toRecord m'))

instance : Std.Associative (combine : α → α → α) where
  assoc m m' m'' := by
    simp only [combine, Message.toRecord_ofRecord, Schema.combine_assoc]

theorem combine_emptyMessage (m : α) : combine m emptyMessage = m := by
  rw [combine, emptyMessage, Message.toRecord_ofRecord, Schema.combine_empty,
    Message.ofRecord_toRecord]

/-- Messages combined one after another, beginning with the empty one. -/
def combineAll (ms : List α) : α :=
  ms.foldl combine emptyMessage

/-- Combining one after another is combining with all at once. -/
theorem foldl_combine (m : α) (ms : List α) : ms.foldl combine m = combine m (combineAll ms) := by
  have h : ms.foldl combine (combine m emptyMessage) = combine m (ms.foldl combine emptyMessage) :=
    List.foldl_assoc
  rwa [combine_emptyMessage] at h

/-- Messages may be combined in groups first. -/
theorem foldl_combine_groups (m : α) (groups : List (List α)) :
    (groups.map combineAll).foldl combine m = groups.flatten.foldl combine m := by
  induction groups generalizing m with
  | nil => rfl
  | cons group groups ih =>
    simp only [List.map_cons, List.foldl_cons, List.flatten_cons, List.foldl_append, ih,
      foldl_combine m group]

end

end LaptopCatalogue.Wire
