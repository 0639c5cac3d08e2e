import LaptopCatalogue.Number.Binary

/-!
# Laptops and search filters

The records of the catalogue. A part that the client did not describe is absent, a number or text
that it did not give is zero or empty. Fields that hold one of a fixed set of codes keep the raw
number, since a client may send one that is not declared.
-/

namespace LaptopCatalogue

/-- An amount of memory: a count of units. -/
structure Memory where
  value : UInt64 := 0
  unit : Int32 := 0
deriving DecidableEq, Repr

structure Cpu where
  brand : String := ""
  name : String := ""
  numberCores : UInt32 := 0
  numberThreads : UInt32 := 0
  minGhz : Binary64 := .zero
  maxGhz : Binary64 := .zero
deriving DecidableEq, Repr

structure Gpu where
  brand : String := ""
  name : String := ""
  minGhz : Binary64 := .zero
  maxGhz : Binary64 := .zero
  memory : Option Memory := none
deriving DecidableEq, Repr

structure Storage where
  driver : Int32 := 0
  memory : Option Memory := none
deriving DecidableEq, Repr

structure Resolution where
  width : UInt32 := 0
  height : UInt32 := 0
deriving DecidableEq, Repr

structure Screen where
  sizeInch : Binary32 := .zero
  resolution : Option Resolution := none
  panel : Int32 := 0
  multitouch : Bool := false
deriving DecidableEq, Repr

structure Keyboard where
  layout : Int32 := 0
  backlit : Bool := false
deriving DecidableEq, Repr

/-- A weight in one of two units. -/
inductive Weight where
  | kilograms (value : Binary64)
  | pounds (value : Binary64)
deriving DecidableEq, Repr

/-- A record of the catalogue. -/
structure Laptop where
  id : String := ""
  brand : String := ""
  name : String := ""
  cpu : Option Cpu := none
  ram : Option Memory := none
  gpus : List Gpu := []
  storages : List Storage := []
  screen : Option Screen := none
  keyboard : Option Keyboard := none
  weight : Option Weight := none
  priceUsd : Binary64 := .zero
  releaseYear : UInt32 := 0
  /-- In seconds since the beginning of 1970. -/
  updatedAtUnix : Int64 := 0
deriving DecidableEq, Repr

/-- The bounds of a search. A bound that is unset or zero asks for nothing. -/
structure Filter where
  maxPriceUsd : Option Binary64 := none
  minCpuCores : UInt32 := 0
  minCpuGhz : Binary64 := .zero
  minRam : Option Memory := none
deriving DecidableEq, Repr

end LaptopCatalogue
