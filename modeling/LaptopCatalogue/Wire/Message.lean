import LaptopCatalogue.Wire.Schema
import LaptopCatalogue.Laptop.Requests

/-!
# The messages of the service

Each structure of the catalogue has a schema, and is written and read as a record of that schema.
Nothing is lost on the way there or back.

* `encode`, `encodedSize`: the bytes of a message and their count.
* `decode`, `merge`: a message from its bytes, alone or on top of an earlier one.
-/

namespace LaptopCatalogue.Wire

/-- A type of messages: a schema whose records are the same thing. -/
class Message (α : Type) where
  schema : Schema
  sound : schema.Sound := by decide
  toRecord : α → schema.Record
  ofRecord : schema.Record → α
  ofRecord_toRecord (m : α) : ofRecord (toRecord m) = m
  toRecord_ofRecord (r : schema.Record) : toRecord (ofRecord r) = r

section
variable {α : Type} [Message α]

def encode (m : α) : Bytes :=
  (Message.schema α).encode (Message.toRecord m)

def encodedSize (m : α) : Nat :=
  (Message.schema α).size (Message.toRecord m)

def emptyMessage : α :=
  Message.ofRecord (Message.schema α).empty

/-- Reads bytes on top of a message. -/
def merge (m : α) (bs : Bytes) : Except Failure α :=
  ((Message.schema α).merge (Message.toRecord m) bs).map Message.ofRecord

def decode (bs : Bytes) : Except Failure α :=
  merge emptyMessage bs

theorem map_ofRecord_map_toRecord (m : Option α) :
    (m.map Message.toRecord).map Message.ofRecord = m := by
  cases m <;> simp [Message.ofRecord_toRecord]

theorem map_toRecord_map_ofRecord (r : Option (Message.schema α).Record) :
    (r.map Message.ofRecord).map (Message.toRecord : α → _) = r := by
  cases r <;> simp [Message.toRecord_ofRecord]

theorem list_map_ofRecord_map_toRecord (ms : List α) :
    (ms.map Message.toRecord).map Message.ofRecord = ms := by
  induction ms <;> simp_all [Message.ofRecord_toRecord]

theorem list_map_toRecord_map_ofRecord (rs : List (Message.schema α).Record) :
    (rs.map Message.ofRecord).map (Message.toRecord : α → _) = rs := by
  induction rs <;> simp_all [Message.toRecord_ofRecord]

end

/-! ## Parts of a laptop -/

instance : Message Memory where
  schema :=
    .plain ⟨"Memory", "value"⟩ 1 .uint64 <|
    .plain ⟨"Memory", "unit"⟩ 2 .enumeration .done
  toRecord m := (m.value, m.unit, ())
  ofRecord := fun (value, unit, ()) => { value, unit }
  ofRecord_toRecord _ := rfl
  toRecord_ofRecord _ := rfl

instance : Message Cpu where
  schema :=
    .plain ⟨"Cpu", "brand"⟩ 1 .text <|
    .plain ⟨"Cpu", "name"⟩ 2 .text <|
    .plain ⟨"Cpu", "number_cores"⟩ 3 .uint32 <|
    .plain ⟨"Cpu", "number_threads"⟩ 4 .uint32 <|
    .plain ⟨"Cpu", "min_ghz"⟩ 5 .double <|
    .plain ⟨"Cpu", "max_ghz"⟩ 6 .double .done
  toRecord m := (m.brand, m.name, m.numberCores, m.numberThreads, m.minGhz, m.maxGhz, ())
  ofRecord := fun (brand, name, numberCores, numberThreads, minGhz, maxGhz, ()) =>
    { brand, name, numberCores, numberThreads, minGhz, maxGhz }
  ofRecord_toRecord _ := rfl
  toRecord_ofRecord _ := rfl

instance : Message Gpu where
  schema :=
    .plain ⟨"Gpu", "brand"⟩ 1 .text <|
    .plain ⟨"Gpu", "name"⟩ 2 .text <|
    .plain ⟨"Gpu", "min_ghz"⟩ 3 .double <|
    .plain ⟨"Gpu", "max_ghz"⟩ 4 .double <|
    .message ⟨"Gpu", "memory"⟩ 5 (Message.schema Memory) .done
  toRecord m := (m.brand, m.name, m.minGhz, m.maxGhz, m.memory.map Message.toRecord, ())
  ofRecord := fun (brand, name, minGhz, maxGhz, memory, ()) =>
    { brand, name, minGhz, maxGhz, memory := memory.map Message.ofRecord }
  ofRecord_toRecord m := by simp only [map_ofRecord_map_toRecord]
  toRecord_ofRecord := fun (_, _, _, _, _, ()) => by
    simp only [map_toRecord_map_ofRecord]
    rfl

instance : Message Storage where
  schema :=
    .plain ⟨"Storage", "driver"⟩ 1 .enumeration <|
    .message ⟨"Storage", "memory"⟩ 2 (Message.schema Memory) .done
  toRecord m := (m.driver, m.memory.map Message.toRecord, ())
  ofRecord := fun (driver, memory, ()) => { driver, memory := memory.map Message.ofRecord }
  ofRecord_toRecord m := by simp only [map_ofRecord_map_toRecord]
  toRecord_ofRecord := fun (_, _, ()) => by
    simp only [map_toRecord_map_ofRecord]
    rfl

instance : Message Resolution where
  schema :=
    .plain ⟨"Resolution", "width"⟩ 1 .uint32 <|
    .plain ⟨"Resolution", "height"⟩ 2 .uint32 .done
  toRecord m := (m.width, m.height, ())
  ofRecord := fun (width, height, ()) => { width, height }
  ofRecord_toRecord _ := rfl
  toRecord_ofRecord _ := rfl

instance : Message Screen where
  schema :=
    .plain ⟨"Screen", "size_inch"⟩ 1 .float <|
    .message ⟨"Screen", "resolution"⟩ 2 (Message.schema Resolution) <|
    .plain ⟨"Screen", "panel"⟩ 3 .enumeration <|
    .plain ⟨"Screen", "multitouch"⟩ 4 .bool .done
  toRecord m := (m.sizeInch, m.resolution.map Message.toRecord, m.panel, m.multitouch, ())
  ofRecord := fun (sizeInch, resolution, panel, multitouch, ()) =>
    { sizeInch, resolution := resolution.map Message.ofRecord, panel, multitouch }
  ofRecord_toRecord m := by simp only [map_ofRecord_map_toRecord]
  toRecord_ofRecord := fun (_, _, _, _, ()) => by
    simp only [map_toRecord_map_ofRecord]
    rfl

instance : Message Keyboard where
  schema :=
    .plain ⟨"Keyboard", "layout"⟩ 1 .enumeration <|
    .plain ⟨"Keyboard", "backlit"⟩ 2 .bool .done
  toRecord m := (m.layout, m.backlit, ())
  ofRecord := fun (layout, backlit, ()) => { layout, backlit }
  ofRecord_toRecord _ := rfl
  toRecord_ofRecord _ := rfl

/-- A weight as a choice between two doubles, kilograms on the left. -/
def weightToSum : Weight → Binary64 ⊕ Binary64
  | .kilograms v => .inl v
  | .pounds v => .inr v

/-- The weight of a choice between two doubles. -/
def weightOfSum : Binary64 ⊕ Binary64 → Weight
  | .inl v => .kilograms v
  | .inr v => .pounds v

theorem map_weightOfSum_map_weightToSum (w : Option Weight) :
    (w.map weightToSum).map weightOfSum = w := by
  rcases w with _ | _ | _ <;> rfl

theorem map_weightToSum_map_weightOfSum (s : Option (Binary64 ⊕ Binary64)) :
    (s.map weightOfSum).map weightToSum = s := by
  rcases s with _ | _ | _ <;> rfl

/-! ## Laptops and filters -/

instance : Message Laptop where
  schema :=
    .plain ⟨"Laptop", "id"⟩ 1 .text <|
    .plain ⟨"Laptop", "brand"⟩ 2 .text <|
    .plain ⟨"Laptop", "name"⟩ 3 .text <|
    .message ⟨"Laptop", "cpu"⟩ 4 (Message.schema Cpu) <|
    .message ⟨"Laptop", "ram"⟩ 5 (Message.schema Memory) <|
    .repeated ⟨"Laptop", "gpus"⟩ 6 (Message.schema Gpu) <|
    .repeated ⟨"Laptop", "storages"⟩ 7 (Message.schema Storage) <|
    .message ⟨"Laptop", "screen"⟩ 8 (Message.schema Screen) <|
    .message ⟨"Laptop", "keyboard"⟩ 9 (Message.schema Keyboard) <|
    .choice ⟨"Laptop", "weight"⟩ 10 .double 11 .double <|
    .plain ⟨"Laptop", "price_usd"⟩ 12 .double <|
    .plain ⟨"Laptop", "release_year"⟩ 13 .uint32 <|
    .plain ⟨"Laptop", "updated_at_unix"⟩ 14 .int64 .done
  toRecord m :=
    (m.id, m.brand, m.name, m.cpu.map Message.toRecord, m.ram.map Message.toRecord,
      m.gpus.map Message.toRecord, m.storages.map Message.toRecord,
      m.screen.map Message.toRecord, m.keyboard.map Message.toRecord,
      m.weight.map weightToSum, m.priceUsd, m.releaseYear, m.updatedAtUnix, ())
  ofRecord := fun (id, brand, name, cpu, ram, gpus, storages, screen, keyboard, weight,
      priceUsd, releaseYear, updatedAtUnix, ()) =>
    { id, brand, name, cpu := cpu.map Message.ofRecord, ram := ram.map Message.ofRecord,
      gpus := gpus.map Message.ofRecord, storages := storages.map Message.ofRecord,
      screen := screen.map Message.ofRecord, keyboard := keyboard.map Message.ofRecord,
      weight := weight.map weightOfSum, priceUsd, releaseYear, updatedAtUnix }
  ofRecord_toRecord m := by
    simp only [map_ofRecord_map_toRecord, list_map_ofRecord_map_toRecord,
      map_weightOfSum_map_weightToSum]
  toRecord_ofRecord := fun (_, _, _, _, _, _, _, _, _, _, _, _, _, ()) => by
    simp only [map_toRecord_map_ofRecord, list_map_toRecord_map_ofRecord,
      map_weightToSum_map_weightOfSum]
    rfl

instance : Message Filter where
  schema :=
    .optional ⟨"Filter", "max_price_usd"⟩ 1 .double <|
    .plain ⟨"Filter", "min_cpu_cores"⟩ 2 .uint32 <|
    .plain ⟨"Filter", "min_cpu_ghz"⟩ 3 .double <|
    .message ⟨"Filter", "min_ram"⟩ 4 (Message.schema Memory) .done
  toRecord m := (m.maxPriceUsd, m.minCpuCores, m.minCpuGhz, m.minRam.map Message.toRecord, ())
  ofRecord := fun (maxPriceUsd, minCpuCores, minCpuGhz, minRam, ()) =>
    { maxPriceUsd, minCpuCores, minCpuGhz, minRam := minRam.map Message.ofRecord }
  ofRecord_toRecord m := by simp only [map_ofRecord_map_toRecord]
  toRecord_ofRecord := fun (_, _, _, _, ()) => by
    simp only [map_toRecord_map_ofRecord]
    rfl

/-! ## Requests and answers -/

instance : Message CreateRequest where
  schema := .message ⟨"CreateLaptopRequest", "laptop"⟩ 1 (Message.schema Laptop) .done
  toRecord m := (m.laptop.map Message.toRecord, ())
  ofRecord := fun (laptop, ()) => { laptop := laptop.map Message.ofRecord }
  ofRecord_toRecord m := by simp only [map_ofRecord_map_toRecord]
  toRecord_ofRecord := fun (_, ()) => by
    simp only [map_toRecord_map_ofRecord]
    rfl

instance : Message CreateResponse where
  schema := .plain ⟨"CreateLaptopResponse", "id"⟩ 1 .text .done
  toRecord m := (m.id, ())
  ofRecord := fun (id, ()) => { id }
  ofRecord_toRecord _ := rfl
  toRecord_ofRecord _ := rfl

instance : Message FindRequest where
  schema := .plain ⟨"FindLaptopRequest", "id"⟩ 1 .text .done
  toRecord m := (m.id, ())
  ofRecord := fun (id, ()) => { id }
  ofRecord_toRecord _ := rfl
  toRecord_ofRecord _ := rfl

instance : Message FindResponse where
  schema := .message ⟨"FindLaptopResponse", "laptop"⟩ 1 (Message.schema Laptop) .done
  toRecord m := (m.laptop.map Message.toRecord, ())
  ofRecord := fun (laptop, ()) => { laptop := laptop.map Message.ofRecord }
  ofRecord_toRecord m := by simp only [map_ofRecord_map_toRecord]
  toRecord_ofRecord := fun (_, ()) => by
    simp only [map_toRecord_map_ofRecord]
    rfl

instance : Message SearchRequest where
  schema := .message ⟨"SearchLaptopRequest", "filter"⟩ 1 (Message.schema Filter) .done
  toRecord m := (m.filter.map Message.toRecord, ())
  ofRecord := fun (filter, ()) => { filter := filter.map Message.ofRecord }
  ofRecord_toRecord m := by simp only [map_ofRecord_map_toRecord]
  toRecord_ofRecord := fun (_, ()) => by
    simp only [map_toRecord_map_ofRecord]
    rfl

instance : Message SearchResponse where
  schema := .message ⟨"SearchLaptopResponse", "laptop"⟩ 1 (Message.schema Laptop) .done
  toRecord m := (m.laptop.map Message.toRecord, ())
  ofRecord := fun (laptop, ()) => { laptop := laptop.map Message.ofRecord }
  ofRecord_toRecord m := by simp only [map_ofRecord_map_toRecord]
  toRecord_ofRecord := fun (_, ()) => by
    simp only [map_toRecord_map_ofRecord]
    rfl

end LaptopCatalogue.Wire
