import LaptopCatalogue.Laptop.Basic
import LaptopCatalogue.Laptop.Codes
import LaptopCatalogue.Number.Text

/-!
# Filters in the log

A search writes its filter to the log field by field. Braces are spelled by their code where they
are text.
-/

namespace LaptopCatalogue

/-- Numbers from 0.0001 up to below ten to the sixteenth are written positionally, always with a
place after the point. -/
def logNumber : NumberLayout where
  leastPositional := -4
  greatestPositional := 15
  wholeEnding := ".0"
  exponentMark := "e"
  zero := "0.0"
  infinity := "inf"
  nan := "NaN"

def describeOption {α : Type} (describe : α → String) : Option α → String
  | none => "None"
  | some v => s!"Some({describe v})"

/-- The text of a code: the name of its choice, or the number if it is not declared. -/
def describeCode (α : Type) [Coded α] (code : Int32) : String :=
  match (Coded.ofCode? code : Option α) with
  | some choice => Coded.name choice
  | none => toString code.toInt

def Memory.describe (m : Memory) : String :=
  s!"Memory \x7b value: {m.value.toNat}, unit: {describeCode MemoryUnit m.unit} \x7d"

def Filter.describe (f : Filter) : String :=
  let price := describeOption logNumber.text f.maxPriceUsd
  let ram := describeOption Memory.describe f.minRam
  s!"Filter \x7b max_price_usd: {price}, min_cpu_cores: {f.minCpuCores.toNat}, " ++
    s!"min_cpu_ghz: {logNumber.text f.minCpuGhz}, min_ram: {ram} \x7d"

end LaptopCatalogue
