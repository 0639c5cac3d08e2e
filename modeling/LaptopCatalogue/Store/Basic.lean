import LaptopCatalogue.Store.Error
import LaptopCatalogue.Laptop.Basic

/-!
# Stores

A store keeps laptops. The service knows it by three operations on a state of the store's choice;
each may succeed, fail, or abort in the middle of its work. A search hands over laptops one after
another and stops as soon as the receiver of one refuses it.

* `Store`: the three operations.
* `Scan`: what a search would hand over if nobody refused, and how it would end.
* `Scan.run`: the search with a receiver.
-/

namespace LaptopCatalogue

/-- How an operation ends. -/
inductive Outcome (α : Type) where
  | returned (value : α)
  | failed (error : StoreError)
  | aborted (reason : String)
deriving DecidableEq, Repr

/-- A search: the laptops in the order in which they are handed over, and how the search ends after
the last one. -/
structure Scan where
  laptops : List Laptop
  ending : Outcome Unit
deriving DecidableEq, Repr

namespace Scan

/-- Hands laptops to a receiver, which keeps a state of its own, until one is refused. -/
def handOver {σ : Type} (receive : Laptop → σ → Except StoreError Unit × σ) :
    List Laptop → σ → Except StoreError Unit × σ
  | [], s => (.ok (), s)
  | laptop :: rest, s =>
    match receive laptop s with
    | (.ok (), s) => handOver receive rest s
    | (.error error, s) => (.error error, s)

/-- Runs a search. The first refusal ends it and is its result. -/
def run {σ : Type} (scan : Scan) (receive : Laptop → σ → Except StoreError Unit × σ) (s : σ) :
    Outcome Unit × σ :=
  match handOver receive scan.laptops s with
  | (.ok (), s) => (scan.ending, s)
  | (.error error, s) => (.failed error, s)

section

variable {σ : Type} {receive : Laptop → σ → Except StoreError Unit × σ} {s s' : σ}

theorem run_of_accepted {scan : Scan}
    (h : handOver receive scan.laptops s = (.ok (), s')) :
    scan.run receive s = (scan.ending, s') := by
  simp [run, h]

theorem run_of_refused {scan : Scan} {error : StoreError}
    (h : handOver receive scan.laptops s = (.error error, s')) :
    scan.run receive s = (.failed error, s') := by
  simp [run, h]

end

end Scan

/-- A store with states of type `σ`. -/
structure Store (σ : Type) where
  save : Laptop → σ → Outcome Unit × σ
  find : String → σ → Outcome (Option Laptop) × σ
  search : Filter → σ → Scan × σ

end LaptopCatalogue
