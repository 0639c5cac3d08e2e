import LaptopCatalogue.Number.Rounded

/-!
# How similar two words are

A mistyped word is similar to the right one if most of its characters occur there at nearly the same
places and in the same order. The measure is a number between 0 and 1. With `m` matching characters,
`t` of which are out of order in pairs, words of lengths `a` and `b` are similar to the degree
`(m / a + m / b + (m - t) / m) / 3`, computed from left to right with doubles.
-/

namespace LaptopCatalogue.CommandLine

/-- How far apart matching characters of words with the given lengths may stand. -/
def window (a b : Nat) : Nat := max a b / 2 - 1

/-- For each character of a word that has a match in the other word, from left to right, the
character and the position of its match: the first one in the window that is not yet taken. -/
def matching (a b : List Char) : List (Char × Nat) :=
  let reach := window a.length b.length
  a.zipIdx.foldl
    (fun found (c, i) =>
      let partner? := b.zipIdx.find? fun (d, j) =>
        i ≤ j + reach && j ≤ i + reach && c = d && found.all fun (_, taken) => taken ≠ j
      match partner? with
      | some (_, j) => found ++ [(c, j)]
      | none => found)
    []

/-- How many pairs of matching characters are out of order. -/
def transpositions (found : List (Char × Nat)) (b : List Char) : Nat :=
  let left := found.map (·.1)
  let right := (b.zipIdx.filter fun (_, j) => found.any fun (_, taken) => taken = j).map (·.1)
  ((left.zip right).countP fun (c, d) => c ≠ d) / 2

def similarity (a b : List Char) : Fraction :=
  let found := matching a b
  let m := found.length
  if m = 0 then .zero
  else
    let inOrder := m - transpositions found b
    let sum := ((Fraction.quotient m a.length).plus (.quotient m b.length)).plus
      (.quotient inOrder m)
    sum.dividedBy 3

/-- Above this degree one word may be meant by the other. -/
def similarEnough : Fraction := .quotient 7 10

/-- The word that may be meant by another: the most similar one, and the last of several. -/
def mostSimilar? (word : String) (candidates : List String) : Option String :=
  let degree (candidate : String) := similarity word.toList candidate.toList
  (candidates.filter fun candidate => !(degree candidate).le similarEnough).foldl
    (fun best candidate =>
      match best with
      | none => some candidate
      | some other => if (degree other).le (degree candidate) then some candidate else best)
    none

end LaptopCatalogue.CommandLine
