import LaptopCatalogue.Toml.Document

/-!
# The integers of a document

Integers of TOML have 64 bits. A word that stands for a larger number is refused, and what becomes
of the values that were read, in arrays, tables and sections, never makes another integer.

* `Value.Fits`: every integer in a value is of 64 bits; `Node.Fits` and `Entries.Fits` say so of
  tables in the making.
* `Gives`: what every result of a reader has in common.
* `Entries.Keeps`: what a change of a table keeps, one lemma for each change.
* `fits_of_read?`: every integer of a document that can be read is of 64 bits.
-/

namespace LaptopCatalogue.Toml

/-! ## Values and tables -/

def IsInt64 (n : Int) : Prop := -Int.pow 2 63 ≤ n ∧ n < Int.pow 2 63

/-- Every integer in a value is of 64 bits. -/
inductive Value.Fits : Value → Prop where
  | string (text : String) : Fits (.string text)
  | integer {n : Int} (h : IsInt64 n) : Fits (.integer n)
  | float (x : Binary64) : Fits (.float x)
  | boolean (b : Bool) : Fits (.boolean b)
  | moment (text : String) : Fits (.moment text)
  | array {items : List Value} (h : ∀ v ∈ items, Fits v) : Fits (.array items)
  | table {entries : List (String × Value)} (h : ∀ e ∈ entries, Fits e.2) : Fits (.table entries)

/-- Every integer below a key is of 64 bits. -/
inductive Node.Fits : Node → Prop where
  | settled {value : Value} (h : value.Fits) : Fits (.settled value)
  | table {origin : Origin} {entries : List (String × Node)} (h : ∀ e ∈ entries, Fits e.2) :
      Fits (.table origin entries)
  | tables {front : List (List (String × Node))} {last : List (String × Node)}
      (hfront : ∀ entries ∈ front, ∀ e ∈ entries, Fits e.2) (hlast : ∀ e ∈ last, Fits e.2) :
      Fits (.tables front last)

theorem entryValues_eq_map (entries : List (String × Node)) :
    entryValues entries = entries.map fun e => (e.1, e.2.value) := by
  induction entries with
  | nil => simp [entryValues]
  | cons e entries ih => simp [entryValues, ih]

theorem tableValues_eq_map (tables : List (List (String × Node))) :
    tableValues tables = tables.map fun entries => .table (entryValues entries) := by
  induction tables with
  | nil => simp [tableValues]
  | cons entries tables ih => simp [tableValues, ih]

/-- The values of a table fit if what stands under its keys does. -/
theorem fits_entryValues {entries : List (String × Node)} (h : ∀ e ∈ entries, e.2.value.Fits) :
    ∀ e ∈ entryValues entries, e.2.Fits := by
  intro e he
  rw [entryValues_eq_map] at he
  obtain ⟨entry, hentry, rfl⟩ := List.mem_map.mp he
  exact h entry hentry

theorem Node.Fits.value {node : Node} (h : node.Fits) : node.value.Fits := by
  induction h with
  | settled h =>
    rw [Node.value]
    exact h
  | table _ ih =>
    rw [Node.value]
    exact .table (fits_entryValues ih)
  | tables _ _ ihfront ihlast =>
    rw [Node.value, tableValues_eq_map]
    refine .array (List.forall_mem_append.mpr ⟨?_, List.forall_mem_singleton.mpr ?_⟩)
    · intro v hv
      obtain ⟨entries, hentries, rfl⟩ := List.mem_map.mp hv
      exact .table (fits_entryValues (ihfront entries hentries))
    · exact .table (fits_entryValues ihlast)

/-! ## Changes of tables -/

namespace Entries

/-- Every integer in a table in the making is of 64 bits. -/
def Fits (entries : Entries) : Prop := ∀ e ∈ entries, e.2.Fits

/-- A change of a table brings no other integers in. -/
def Keeps (change : Entries → Option Entries) : Prop :=
  ∀ ⦃entries entries' : Entries⦄, entries.Fits → change entries = some entries' → entries'.Fits

section

variable {entries : Entries} {key : String} {node : Node}

theorem fits_nil : Fits [] := by
  intro e he
  cases he

theorem Fits.append (h : entries.Fits) (hnode : node.Fits) : (entries.append key node).Fits :=
  List.forall_mem_append.mpr ⟨h, List.forall_mem_singleton.mpr hnode⟩

theorem Fits.replace (h : entries.Fits) (hnode : node.Fits) : (entries.replace key node).Fits := by
  intro e he
  obtain ⟨entry, hentry, rfl⟩ := List.mem_map.mp he
  split
  · exact hnode
  · exact h entry hentry

theorem Fits.erase (h : entries.Fits) : (entries.erase key).Fits := by
  intro e he
  exact h e (List.mem_filter.mp he).1

theorem Fits.find? (h : entries.Fits) (hfind : entries.find? key = some node) : node.Fits := by
  obtain ⟨entry, hentry, rfl⟩ := Option.map_eq_some_iff.mp hfind
  exact h entry (List.mem_of_find?_eq_some hentry)

end

/-- A value under a dotted key, by the keys in front of the last. -/
theorem keeps_put? {value : Value} (hvalue : value.Fits) (path : List String) (key : String) :
    Keeps (put? value path key) := by
  induction path with
  | nil =>
    intro entries entries' hentries h
    unfold put? at h
    split at h
    · cases h
      exact hentries.append (.settled hvalue)
    · cases h
  | cons p path ih =>
    intro entries entries' hentries h
    unfold put? at h
    -- the first key is new, or leads into a table, or into the last table of an array
    split at h
    · obtain ⟨inner, hinner, rfl⟩ := Option.map_eq_some_iff.mp h
      exact hentries.append (.table (ih fits_nil hinner))
    · rename_i origin inner hfind
      split at h
      · cases h
      · obtain ⟨inner', hinner, rfl⟩ := Option.map_eq_some_iff.mp h
        cases hentries.find? hfind with
        | table hfits => exact hentries.replace (.table (ih hfits hinner))
    · rename_i front last hfind
      split at h
      · cases h
      · obtain ⟨last', hlast, rfl⟩ := Option.map_eq_some_iff.mp h
        cases hentries.find? hfind with
        | tables hfront hfits => exact hentries.replace (.tables hfront (ih hfits hlast))
    · cases h

/-- A change of a table inside of others, by the keys that lead there. -/
theorem keeps_descend? {change : Entries → Option Entries} (hchange : Keeps change)
    (path : List String) : Keeps (descend? change path) := by
  induction path with
  | nil => exact hchange
  | cons p path ih =>
    intro entries entries' hentries h
    unfold descend? at h
    split at h
    · obtain ⟨inner, hinner, rfl⟩ := Option.map_eq_some_iff.mp h
      exact hentries.append (.table (ih fits_nil hinner))
    · rename_i origin inner hfind
      obtain ⟨inner', hinner, rfl⟩ := Option.map_eq_some_iff.mp h
      cases hentries.find? hfind with
      | table hfits => exact hentries.replace (.table (ih hfits hinner))
    · rename_i front last hfind
      obtain ⟨last', hlast, rfl⟩ := Option.map_eq_some_iff.mp h
      cases hentries.find? hfind with
      | tables hfront hfits => exact hentries.replace (.tables hfront (ih hfits hlast))
    · cases h

section

variable {fill : Entries → Option Entries}

theorem keeps_openTable? (hfill : Keeps fill) (key : String) : Keeps (openTable? fill key) := by
  intro entries entries' hentries h
  unfold openTable? at h
  split at h
  · obtain ⟨inner, hinner, rfl⟩ := Option.map_eq_some_iff.mp h
    exact hentries.append (.table (hfill fits_nil hinner))
  · rename_i inner hfind
    obtain ⟨inner', hinner, rfl⟩ := Option.map_eq_some_iff.mp h
    cases hentries.find? hfind with
    | table hfits => exact hentries.erase.append (.table (hfill hfits hinner))
  · cases h

theorem keeps_openElement? (hfill : Keeps fill) (key : String) :
    Keeps (openElement? fill key) := by
  intro entries entries' hentries h
  unfold openElement? at h
  split at h
  · obtain ⟨last, hlast, rfl⟩ := Option.map_eq_some_iff.mp h
    refine hentries.append (.tables ?_ (hfill fits_nil hlast))
    intro inner hinner
    cases hinner
  · rename_i front last hfind
    obtain ⟨new, hnew, rfl⟩ := Option.map_eq_some_iff.mp h
    cases hentries.find? hfind with
    | tables hfront hlast =>
      -- what was the last table stands in front of the new one
      have hfront' := List.forall_mem_append.mpr ⟨hfront, List.forall_mem_singleton.mpr hlast⟩
      exact hentries.replace (.tables hfront' (hfill fits_nil hnew))
  · cases h

end

theorem keeps_foldlM {α : Type} {change : Entries → α → Option Entries} {changes : List α}
    (h : ∀ a ∈ changes, Keeps (change · a)) : Keeps (changes.foldlM change) := by
  induction changes with
  | nil =>
    intro entries entries' hentries hdone
    cases hdone
    exact hentries
  | cons a changes ih =>
    intro entries entries' hentries hdone
    simp only [List.foldlM_cons] at hdone
    obtain ⟨between, hfirst, hrest⟩ := Option.bind_eq_some_iff.mp hdone
    obtain ⟨ha, hchanges⟩ := List.forall_mem_cons.mp h
    exact ih hchanges (ha hentries hfirst) hrest

end Entries

open Entries (Keeps)

/-! ## Readers -/

/-- All results of a reader have a property. -/
def Gives {α : Type} (read : Reader α) (property : α → Prop) : Prop :=
  ∀ ⦃cs : List Char⦄ ⦃a : α⦄ ⦃rest : List Char⦄, read cs = some (a, rest) → property a

theorem isInt64_of_integer? {word : List Char} {n : Int} (h : integer? word = some n) :
    IsInt64 n := by
  unfold integer? at h
  have hrange := (Option.filter_eq_some_iff.mp h).2
  simp only [Bool.and_eq_true, decide_eq_true_eq] at hrange
  exact hrange

theorem fits_of_ofWord? {word : List Char} {value : Value} (h : Value.ofWord? word = some value) :
    value.Fits := by
  unfold Value.ofWord? at h
  split at h
  · cases h
    exact .boolean true
  split at h
  · cases h
    exact .boolean false
  split at h
  · cases h
    exact .moment _
  -- an integer is tried first, and a floating-point number only where there is none
  cases hinteger : integer? word with
  | some n =>
    rw [hinteger] at h
    cases h
    exact .integer (isInt64_of_integer? hinteger)
  | none =>
    rw [hinteger] at h
    obtain ⟨x, _, rfl⟩ := Option.map_eq_some_iff.mp h
    exact .float x

section

variable {item : Reader Value}

theorem gives_items? (hitem : Gives item Value.Fits) (budget : Nat) :
    Gives (items? item budget) fun values => ∀ v ∈ values, v.Fits := by
  induction budget with
  | zero =>
    intro cs values rest h
    cases h
  | succ budget ih =>
    intro cs values rest h
    unfold items? at h
    split at h
    · cases h
      intro v hv
      cases hv
    · obtain ⟨⟨value, behind⟩, hvalue, h⟩ := Option.bind_eq_some_iff.mp h
      have hfits := hitem hvalue
      dsimp only at h
      split at h
      · obtain ⟨⟨values, rest⟩, hvalues, h⟩ := Option.bind_eq_some_iff.mp h
        cases h
        exact List.forall_mem_cons.mpr ⟨hfits, ih hvalues⟩
      · cases h
        exact List.forall_mem_singleton.mpr hfits
      · cases h

theorem gives_keyedValue? (hitem : Gives item Value.Fits) :
    Gives (keyedValue? item) fun entry => entry.2.Fits := by
  intro cs entry rest h
  unfold keyedValue? at h
  obtain ⟨⟨path, behind⟩, _, h⟩ := Option.bind_eq_some_iff.mp h
  dsimp only at h
  split at h
  · obtain ⟨⟨value, rest⟩, hvalue, h⟩ := Option.bind_eq_some_iff.mp h
    cases h
    exact hitem hvalue
  · cases h

theorem gives_inlineEntries? (hitem : Gives item Value.Fits) (budget : Nat) {entries : Entries}
    (hentries : entries.Fits) : Gives (inlineEntries? item budget entries) Entries.Fits := by
  induction budget generalizing entries with
  | zero =>
    intro cs entries' rest h
    cases h
  | succ budget ih =>
    intro cs entries' rest h
    unfold inlineEntries? at h
    obtain ⟨⟨⟨⟨path, key⟩, value⟩, behind⟩, hentry, h⟩ := Option.bind_eq_some_iff.mp h
    obtain ⟨more, hmore, h⟩ := Option.bind_eq_some_iff.mp h
    have hfits : more.Fits :=
      Entries.keeps_put? (gives_keyedValue? hitem hentry) path key hentries hmore
    split at h
    · exact ih hfits h
    · cases h
      exact hfits
    · cases h

theorem gives_inlineTable? (hitem : Gives item Value.Fits) :
    Gives (inlineTable? item) Value.Fits := by
  intro cs value rest h
  unfold inlineTable? at h
  split at h
  · cases h
    apply Value.Fits.table
    intro e he
    cases he
  · obtain ⟨⟨entries, rest⟩, hentries, h⟩ := Option.bind_eq_some_iff.mp h
    cases h
    have hfits := gives_inlineEntries? hitem _ Entries.fits_nil hentries
    exact .table (fits_entryValues fun e he => (hfits e he).value)

end

/-- A value in brackets or braces holds values in one bracket or brace less. -/
theorem gives_value? (nesting : Nat) : Gives (value? nesting) Value.Fits := by
  induction nesting using Nat.strongRecOn with
  | ind nesting ih =>
    intro cs value rest h
    unfold value? at h
    split at h
    · cases nesting with
      | zero => cases h
      | succ nesting =>
        obtain ⟨⟨values, rest⟩, hvalues, h⟩ := Option.bind_eq_some_iff.mp h
        cases h
        exact .array (gives_items? (ih nesting (Nat.lt_succ_self _)) _ hvalues)
    · cases nesting with
      | zero => cases h
      | succ nesting => exact gives_inlineTable? (ih nesting (Nat.lt_succ_self _)) h
    · obtain ⟨⟨text, rest⟩, _, h⟩ := Option.bind_eq_some_iff.mp h
      cases h
      exact .string text
    · obtain ⟨⟨text, rest⟩, _, h⟩ := Option.bind_eq_some_iff.mp h
      cases h
      exact .string text
    · obtain ⟨value, hvalue, h⟩ := Option.bind_eq_some_iff.mp h
      cases h
      exact fits_of_ofWord? hvalue

/-! ## Lines and sections -/

def Line.Fits : Line → Prop
  | .entry _ _ value => value.Fits
  | .blank | .table .. | .element .. => True

theorem gives_lineRead? : Gives Line.read? Line.Fits := by
  intro cs line rest h
  unfold Line.read? at h
  split at h
  · obtain ⟨⟨⟨path, key⟩, behind⟩, _, h⟩ := Option.bind_eq_some_iff.mp h
    dsimp only at h
    split at h
    · cases h
      trivial
    · cases h
  · obtain ⟨⟨⟨path, key⟩, behind⟩, _, h⟩ := Option.bind_eq_some_iff.mp h
    dsimp only at h
    split at h
    · cases h
      trivial
    · cases h
  · split at h
    · cases h
      trivial
    · split at h
      · cases h
        trivial
      · obtain ⟨⟨⟨⟨path, key⟩, value⟩, behind⟩, hentry, h⟩ := Option.bind_eq_some_iff.mp h
        cases h
        exact gives_keyedValue? (gives_value? maxNesting) hentry

theorem fits_of_lines? {budget : Nat} {cs : List Char} {lines : List Line}
    (h : lines? budget cs = some lines) : ∀ line ∈ lines, line.Fits := by
  induction budget generalizing cs lines with
  | zero => cases h
  | succ budget ih =>
    unfold lines? at h
    obtain ⟨⟨line, behind⟩, hline, h⟩ := Option.bind_eq_some_iff.mp h
    have hfits := gives_lineRead? hline
    dsimp only at h
    split at h
    · cases h
      exact List.forall_mem_singleton.mpr hfits
    · obtain ⟨next, _, h⟩ := Option.bind_eq_some_iff.mp h
      obtain ⟨below, hbelow, rfl⟩ := Option.map_eq_some_iff.mp h
      exact List.forall_mem_cons.mpr ⟨hfits, ih hbelow⟩

/-- Every integer in keys with their values is of 64 bits. -/
def EntriesFit (entries : List (List String × String × Value)) : Prop :=
  ∀ e ∈ entries, e.2.2.Fits

theorem entriesFit_nil : EntriesFit [] := by
  intro e he
  cases he

/-- Sorting lines into sections keeps them as they are. -/
theorem fits_sections {lines : List Line} (h : ∀ line ∈ lines, line.Fits) :
    EntriesFit (sections lines).1 ∧ ∀ s ∈ (sections lines).2, EntriesFit s.entries := by
  induction lines with
  | nil =>
    refine ⟨entriesFit_nil, ?_⟩
    intro s hs
    cases hs
  | cons line lines ih =>
    obtain ⟨hline, hlines⟩ := List.forall_mem_cons.mp h
    obtain ⟨hentries, hbelow⟩ := ih hlines
    cases line with
    | blank => exact ⟨hentries, hbelow⟩
    | entry path key value => exact ⟨List.forall_mem_cons.mpr ⟨hline, hentries⟩, hbelow⟩
    -- the lines up to the next header stand below this one, and none stand in front of it
    | table path key => exact ⟨entriesFit_nil, List.forall_mem_cons.mpr ⟨hentries, hbelow⟩⟩
    | element path key => exact ⟨entriesFit_nil, List.forall_mem_cons.mpr ⟨hentries, hbelow⟩⟩

/-! ## Documents -/

theorem keeps_fill? {entries : List (List String × String × Value)} (h : EntriesFit entries) :
    Keeps (fill? entries) :=
  Entries.keeps_foldlM fun e he => Entries.keeps_put? (h e he) e.1 e.2.1

theorem keeps_add? {s : Section} (h : EntriesFit s.entries) : Keeps (Section.add? · s) := by
  have hfill := keeps_fill? h
  apply Entries.keeps_descend?
  split
  · exact Entries.keeps_openElement? hfill s.key
  · exact Entries.keeps_openTable? hfill s.key

/-- Every integer of a document that can be read is of 64 bits. -/
theorem fits_of_read? {text : String} {root : List (String × Value)} (h : read? text = some root) :
    ∀ e ∈ root, e.2.Fits := by
  unfold read? at h
  obtain ⟨lines, hlines, h⟩ := Option.bind_eq_some_iff.mp h
  obtain ⟨hentries, hbelow⟩ := fits_sections (fits_of_lines? hlines)
  dsimp only at h
  obtain ⟨top, htop, h⟩ := Option.bind_eq_some_iff.mp h
  obtain ⟨entries, hroot, h⟩ := Option.bind_eq_some_iff.mp h
  cases h
  have htop : Entries.Fits top := keeps_fill? hentries Entries.fits_nil htop
  have hroot : Entries.Fits entries :=
    Entries.keeps_foldlM (fun s hs => keeps_add? (hbelow s hs)) htop hroot
  exact fits_entryValues fun e he => (hroot e he).value

end LaptopCatalogue.Toml
