import LaptopCatalogue.Store.Basic
import LaptopCatalogue.Laptop.Qualification

/-!
# The catalogue in memory

A catalogue keeps laptops by their ids. The first record with an id stays: a later one is refused
and changes nothing.

A search goes through the records in some order, about which nothing is promised. Every such order
is a `Listing`; the catalogue that runs lists its records in the order in which they were saved.
-/

namespace LaptopCatalogue

/-- Laptops by their ids, in the order of saving. -/
structure Catalogue where
  entries : List (String × Laptop)
deriving DecidableEq, Repr

/-- An order in which every catalogue lists its records. It may depend on all records and on the
order of their saving, but each record is listed once. -/
structure Listing where
  entries : Catalogue → List (String × Laptop)
  perm_entries : ∀ catalogue, (entries catalogue).Perm catalogue.entries

def Listing.bySaving : Listing where
  entries := Catalogue.entries
  perm_entries _ := .refl _

namespace Catalogue

def empty : Catalogue := ⟨[]⟩

def size (catalogue : Catalogue) : Nat := catalogue.entries.length

def isEmpty (catalogue : Catalogue) : Bool := catalogue.size = 0

/-- The records in the order of a listing. -/
def laptops (catalogue : Catalogue) (listing : Listing) : List Laptop :=
  (listing.entries catalogue).map Prod.snd

def find? (catalogue : Catalogue) (id : String) : Option Laptop := catalogue.entries.lookup id

/-- Adds a record whose id is free. -/
def insert (catalogue : Catalogue) (laptop : Laptop) : Catalogue :=
  ⟨catalogue.entries ++ [(laptop.id, laptop)]⟩

/-- Adds a record, if it has an id that is not taken. -/
def save (catalogue : Catalogue) (laptop : Laptop) : Except StoreError Catalogue :=
  if laptop.id = "" then .error .emptyId
  else match catalogue.find? laptop.id with
    | some _ => .error (.alreadyExists laptop.id)
    | none => .ok (catalogue.insert laptop)

/-- The search for all records within the bounds of a filter, in the order of a listing. -/
def scanBy (listing : Listing) (catalogue : Catalogue) (filter : Filter) : Scan where
  laptops := (catalogue.laptops listing).filter filter.qualifies
  ending := .returned ()

def scan (catalogue : Catalogue) (filter : Filter) : Scan := catalogue.scanBy .bySaving filter

/-- The catalogue as a store, with searches in the order of a listing. A refused record leaves it as
it is. -/
def storeBy (listing : Listing) : Store Catalogue where
  save laptop catalogue :=
    match catalogue.save laptop with
    | .ok catalogue => (.returned (), catalogue)
    | .error error => (.failed error, catalogue)
  find id catalogue := (.returned (catalogue.find? id), catalogue)
  search filter catalogue := (catalogue.scanBy listing filter, catalogue)

def store : Store Catalogue := storeBy .bySaving

/-! ## What the operations do -/

@[simp] theorem find?_empty (id : String) : empty.find? id = none := rfl

/-- Adding a record changes nothing for an id that is taken, and nothing for another id. -/
theorem find?_insert (catalogue : Catalogue) (laptop : Laptop) (id : String) :
    (catalogue.insert laptop).find? id =
      (catalogue.find? id).or (if id = laptop.id then some laptop else none) := by
  simp only [find?, insert, List.lookup_append, List.lookup_cons, List.lookup_nil]
  by_cases h : id = laptop.id
  · simp [h]
  · simp [h, beq_eq_false_iff_ne.mpr h]

/-- All that a save can do: refuse a record without an id, refuse one whose id is taken, or add it
at a free id. Only the last changes the catalogue. -/
theorem store_save_cases (listing : Listing) (laptop : Laptop) (catalogue : Catalogue) :
    (laptop.id = "" ∧
      (storeBy listing).save laptop catalogue = (.failed .emptyId, catalogue)) ∨
    (laptop.id ≠ "" ∧ (catalogue.find? laptop.id).isSome ∧
      (storeBy listing).save laptop catalogue =
        (.failed (.alreadyExists laptop.id), catalogue)) ∨
    (laptop.id ≠ "" ∧ catalogue.find? laptop.id = none ∧
      (storeBy listing).save laptop catalogue = (.returned (), catalogue.insert laptop)) := by
  by_cases hid : laptop.id = ""
  · left
    exact ⟨hid, by simp [storeBy, save, hid]⟩
  · right
    cases hfind : catalogue.find? laptop.id with
    | some kept =>
      left
      exact ⟨hid, rfl, by simp [storeBy, save, hid, hfind]⟩
    | none =>
      right
      exact ⟨hid, rfl, by simp [storeBy, save, hid, hfind]⟩

/-- The laptops that a search would hand over are the stored ones that qualify, in some order. -/
theorem scanBy_laptops_perm (listing : Listing) (catalogue : Catalogue) (filter : Filter) :
    (catalogue.scanBy listing filter).laptops.Perm
      ((catalogue.entries.map Prod.snd).filter filter.qualifies) :=
  ((listing.perm_entries catalogue).map Prod.snd).filter filter.qualifies

end Catalogue

end LaptopCatalogue
