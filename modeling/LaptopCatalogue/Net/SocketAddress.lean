import LaptopCatalogue.Text.Digits

/-!
# Socket addresses

An address of the internet protocol, version 4 or 6, with a port.

* `SocketAddress.read?`: the address of a text. Names of machines are no addresses.
* `SocketAddress.text`: the text of an address. Of an address of version 6 the longest run of zeros
  is left out.
-/

namespace LaptopCatalogue.Net

/-- An address of version 4. -/
structure Ipv4 where
  a : UInt8
  b : UInt8
  c : UInt8
  d : UInt8
deriving DecidableEq, Repr

/-- An address of version 6 in eight groups of sixteen bits. -/
structure Ipv6 where
  groups : List UInt16
  length_groups : groups.length = 8
deriving DecidableEq, Repr

/-- Where a server listens. -/
inductive SocketAddress where
  | v4 (ip : Ipv4) (port : UInt16)
  /-- The scope tells addresses of one machine apart. It is 0 where that is not needed. -/
  | v6 (ip : Ipv6) (scope : UInt32) (port : UInt16)
deriving DecidableEq, Repr

/-! ## Reading -/

/-- Reads digits in a base. They make a number below the limit. -/
def number? (base limit : Nat) (cs : List Char) : Option (Nat × List Char) := do
  let digits := cs.takeWhile (isDigitIn base)
  let n ← numberOfDigits? base digits
  if digits ≠ [] ∧ n < limit then some (n, cs.drop digits.length) else none

def expect? (c : Char) : List Char → Option (List Char)
  | x :: cs => if x = c then some cs else none
  | [] => none

/-- Reads one of the four numbers of an address of version 4. It has no needless zero in front. -/
def octet? (cs : List Char) : Option (UInt8 × List Char) :=
  match cs with
  | '0' :: rest => if rest.head?.any (isDigitIn 10) then none else some (0, rest)
  | cs => (number? 10 256 cs).map fun (n, rest) => (UInt8.ofNat n, rest)

def ipv4? (cs : List Char) : Option (Ipv4 × List Char) := do
  let (a, cs) ← octet? cs
  let (b, cs) ← octet? (← expect? '.' cs)
  let (c, cs) ← octet? (← expect? '.' cs)
  let (d, cs) ← octet? (← expect? '.' cs)
  some (⟨a, b, c, d⟩, cs)

/-- Reads a group of an address of version 6: at most four digits. -/
def group? (cs : List Char) : Option (UInt16 × List Char) :=
  if 4 < (cs.takeWhile (isDigitIn 16)).length then none
  else (number? 16 65536 cs).map fun (n, rest) => (UInt16.ofNat n, rest)

def Ipv4.groups (ip : Ipv4) : List UInt16 :=
  [UInt16.ofNat (256 * ip.a.toNat + ip.b.toNat), UInt16.ofNat (256 * ip.c.toNat + ip.d.toNat)]

/-- Groups that have been read, whether the last two were written as an address of version 4, and
the rest of the text. -/
structure Groups where
  groups : List UInt16
  mixed : Bool
  rest : List Char

/-- Reads groups with colons between them, at most as many as there is room for. The last two may be
written as an address of version 4. -/
def groups (isFirst : Bool) : (room : Nat) → List Char → Groups
  | 0, cs => { groups := [], mixed := false, rest := cs }
  | room + 1, cs =>
    let next? := if isFirst then some cs else expect? ':' cs
    match (if room = 0 then none else next?.bind ipv4?), next?.bind group? with
    | some (ip, rest), _ => { groups := ip.groups, mixed := true, rest }
    | none, some (group, rest) =>
      let more := groups false room rest
      { more with groups := group :: more.groups }
    | none, none => { groups := [], mixed := false, rest := cs }

def Ipv6.ofGroups? (groups : List UInt16) : Option Ipv6 :=
  if h : groups.length = 8 then some ⟨groups, h⟩ else none

/-- Reads an address of version 6. Two colons stand for one group of zeros or more, to make eight.
-/
def ipv6? (cs : List Char) : Option (Ipv6 × List Char) := do
  let front := groups true 8 cs
  if front.groups.length = 8 then
    some (← Ipv6.ofGroups? front.groups, front.rest)
  else if front.mixed then none
  else
    let rest ← expect? ':' (← expect? ':' front.rest)
    let back := groups true (7 - front.groups.length) rest
    let zeros := List.replicate (8 - front.groups.length - back.groups.length) 0
    some (← Ipv6.ofGroups? (front.groups ++ zeros ++ back.groups), back.rest)

/-- Reads a colon and a port to the end of a text. -/
def port? (cs : List Char) : Option UInt16 := do
  let (n, rest) ← number? 10 65536 (← expect? ':' cs)
  if rest = [] then some (UInt16.ofNat n) else none

def scope? : List Char → Option (UInt32 × List Char)
  | '%' :: cs => (number? 10 (Nat.pow 2 32) cs).map fun (n, rest) => (UInt32.ofNat n, rest)
  | cs => some (0, cs)

namespace SocketAddress

def read? (text : String) : Option SocketAddress :=
  match text.toList with
  | '[' :: cs => do
    let (ip, cs) ← ipv6? cs
    let (scope, cs) ← scope? cs
    some (.v6 ip scope (← port? (← expect? ']' cs)))
  | cs => do
    let (ip, cs) ← ipv4? cs
    some (.v4 ip (← port? cs))

end SocketAddress

/-! ## Printing -/

def Ipv4.text (ip : Ipv4) : String :=
  s!"{ip.a.toNat}.{ip.b.toNat}.{ip.c.toNat}.{ip.d.toNat}"

def groupText (group : UInt16) : String :=
  String.ofList (Nat.toDigits 16 group.toNat)

/-- Groups with colons between them. -/
def groupsText (groups : List UInt16) : String :=
  ":".intercalate (groups.map groupText)

def zerosInFront (groups : List UInt16) : Nat :=
  (groups.takeWhile (· = 0)).length

/-- Where the longest run of zeros begins and how long it is. Of two that are equally long the first
one counts. -/
def longestZeros : (start : Nat) → List UInt16 → Nat × Nat
  | start, [] => (start, 0)
  | start, g :: groups =>
    let here := zerosInFront (g :: groups)
    let later := longestZeros (start + 1) groups
    if later.2 ≤ here then (start, here) else later

/-- The text of an address of version 6. An address of version 4 in disguise is shown as one. -/
def Ipv6.text (ip : Ipv6) : String :=
  match ip.groups with
  | [0, 0, 0, 0, 0, 0xffff, g, h] =>
    let low (n : UInt16) := UInt8.ofNat n.toNat
    let high (n : UInt16) := UInt8.ofNat (n.toNat / 256)
    "::ffff:" ++ Ipv4.text ⟨high g, low g, high h, low h⟩
  | groups =>
    let (start, length) := longestZeros 0 groups
    if length ≤ 1 then groupsText groups
    else groupsText (groups.take start) ++ "::" ++ groupsText (groups.drop (start + length))

def SocketAddress.text : SocketAddress → String
  | .v4 ip port => s!"{ip.text}:{port.toNat}"
  | .v6 ip scope port =>
    let scopeText := if scope = 0 then "" else s!"%{scope.toNat}"
    s!"[{ip.text}{scopeText}]:{port.toNat}"

end LaptopCatalogue.Net
