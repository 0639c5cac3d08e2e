import Mathlib.Data.List.TakeWhile
import LaptopCatalogue.Grpc.Server

/-!
# Splitting paths

A path is built from slashes, the name of a service, a slash and a method, where only the name of
the service must not have a slash of its own. Every text is a path in one of four shapes, of which
the last one is complete; splitting tells the parts of each, and says of a part that is missing that
it is unknown.

* `Splits`: the four shapes and their parts, without a splitter.
* `Splits.splitPath_eq`, `exists_splits`: splitting gives the parts of each shape, and there are no
  other texts.
* `splitting_inverts_building`: the statement about all paths.
-/

namespace LaptopCatalogue.Grpc

def slashes (n : Nat) : String := String.ofList (List.replicate n '/')

structure IsServiceName (s : String) : Prop where
  ne_empty : s ≠ ""
  slash_notMem : '/' ∉ s.toList

/-- The shapes of paths, each with its service and its method. -/
inductive Splits : String → String × String → Prop where
  | bare (n : Nat) : Splits (slashes n) ("unknown", "unknown")
  | service (n : Nat) {service : String} (hservice : IsServiceName service) :
      Splits (slashes n ++ service) (service, "unknown")
  | ended (n : Nat) {service : String} (hservice : IsServiceName service) :
      Splits (slashes n ++ service ++ "/") (service, "unknown")
  | complete (n : Nat) {service method : String} (hservice : IsServiceName service)
      (hmethod : method ≠ "") :
      Splits (slashes n ++ service ++ "/" ++ method) (service, method)

/-! ## Where a part ends -/

section

variable {α : Type} {p : α → Bool} {part rest : List α}

/-- What belongs to a part ends in front of the first that does not. -/
theorem takeWhile_append_of_head? (hpart : ∀ a ∈ part, p a) (hrest : ∀ a ∈ rest.head?, ¬p a) :
    (part ++ rest).takeWhile p = part := by
  rw [List.takeWhile_append_of_pos hpart]
  cases rest with
  | nil => rw [List.takeWhile_nil, List.append_nil]
  | cons a rest => rw [List.takeWhile_cons_of_neg (hrest a rfl), List.append_nil]

theorem dropWhile_append_of_head? (hpart : ∀ a ∈ part, p a) (hrest : ∀ a ∈ rest.head?, ¬p a) :
    (part ++ rest).dropWhile p = rest := by
  rw [List.dropWhile_append_of_pos hpart]
  cases rest with
  | nil => rfl
  | cons a rest => rw [List.dropWhile_cons_of_neg (hrest a rfl)]

/-- A list is a part and what is behind it. -/
theorem exists_part (p : α → Bool) (l : List α) :
    ∃ part rest, l = part ++ rest ∧ (∀ a ∈ part, p a) ∧ ∀ a ∈ rest.head?, ¬p a := by
  refine ⟨l.takeWhile p, l.dropWhile p, List.takeWhile_append_dropWhile.symm, ?_, ?_⟩
  · intro a ha
    exact List.mem_takeWhile_imp ha
  · intro a ha
    have hstop := List.head?_dropWhile_not p l
    rw [Option.mem_def.mp ha] at hstop
    rw [hstop]
    exact Bool.false_ne_true

end

/-! ## The parts of each shape -/

section

variable {service method rest : String}

theorem toList_slashes (n : Nat) : (slashes n).toList = List.replicate n '/' :=
  String.toList_ofList

theorem eq_slash_of_mem_slashes {n : Nat} : ∀ c ∈ (slashes n).toList, c = '/' := by
  intro c hc
  rw [toList_slashes] at hc
  exact List.eq_of_mem_replicate hc

theorem partOrUnknown_toList {s : String} (h : s ≠ "") : partOrUnknown s.toList = s := by
  have hne : s.toList ≠ [] := mt String.toList_eq_nil_iff.mp h
  rw [partOrUnknown, if_neg hne, String.ofList_toList]

theorem IsServiceName.ne_slash (h : IsServiceName service) : ∀ c ∈ service.toList, c ≠ '/' := by
  rintro c hc rfl
  exact h.slash_notMem hc

/-- A name does not begin with a slash, so the slashes in front of it end where it begins. -/
theorem IsServiceName.head?_ne_slash (h : IsServiceName service) (rest : List Char) :
    ∀ c ∈ (service.toList ++ rest).head?, c ≠ '/' := by
  have hne : service.toList ≠ [] := mt String.toList_eq_nil_iff.mp h.ne_empty
  obtain ⟨first, more, hcons⟩ := List.exists_cons_of_ne_nil hne
  rw [hcons]
  rintro c ⟨⟩
  exact h.ne_slash first (hcons ▸ List.mem_cons_self)

/-- Behind the slashes in front stands the service, and behind the next slash the method. -/
theorem splitPath_append (n : Nat) (h : IsServiceName service)
    (hrest : ∀ c ∈ rest.toList.head?, c = '/') :
    splitPath (slashes n ++ service ++ rest) =
      (service, partOrUnknown (rest.toList.drop 1)) := by
  have hslashes : ∀ c ∈ (slashes n).toList, decide (c = '/') := by
    simpa using eq_slash_of_mem_slashes
  have hname : ∀ c ∈ service.toList, decide (c ≠ '/') := by
    simpa using h.ne_slash
  have hinner : (slashes n ++ service ++ rest).toList.dropWhile (· = '/') =
      service.toList ++ rest.toList := by
    rw [String.toList_append, String.toList_append, List.append_assoc]
    exact dropWhile_append_of_head? hslashes (by simpa using h.head?_ne_slash rest.toList)
  have hend : ∀ c ∈ rest.toList.head?, ¬decide (c ≠ '/') := by
    simpa using hrest
  rw [splitPath, hinner, takeWhile_append_of_head? hname hend,
    dropWhile_append_of_head? hname hend, partOrUnknown_toList h.ne_empty]

theorem splitPath_slashes (n : Nat) : splitPath (slashes n) = ("unknown", "unknown") := by
  have hnone : (slashes n).toList.dropWhile (· = '/') = [] := by
    rw [List.dropWhile_eq_nil_iff]
    simpa using eq_slash_of_mem_slashes
  rw [splitPath, hnone]
  rfl

/-- Splitting gives the parts of each shape. -/
theorem Splits.splitPath_eq {path : String} {parts : String × String} (h : Splits path parts) :
    splitPath path = parts := by
  cases h with
  | bare n => exact splitPath_slashes n
  | @service n service hservice =>
    rw [← String.append_empty (s := slashes n ++ service)]
    exact splitPath_append n hservice (by simp)
  | ended n hservice => exact splitPath_append n hservice (by simp)
  | @complete n service method hservice hmethod =>
    have htext : ("/" ++ method).toList = '/' :: method.toList := by
      rw [String.toList_append]
      rfl
    have hrest : ∀ c ∈ ("/" ++ method).toList.head?, c = '/' := by
      rw [htext]
      rintro c ⟨⟩
      rfl
    rw [String.append_assoc, splitPath_append n hservice hrest, htext, List.drop_one,
      List.tail_cons, partOrUnknown_toList hmethod]

end

/-! ## Every text is a path -/

/-- What does not begin with a slash is nothing or begins with the name of a service. -/
theorem exists_service {inner : List Char} (h : ∀ c ∈ inner.head?, c ≠ '/') :
    inner = [] ∨ ∃ service rest, inner = service.toList ++ rest ∧ IsServiceName service ∧
      ∀ c ∈ rest.head?, c = '/' := by
  cases inner with
  | nil => exact .inl rfl
  | cons first inner =>
    obtain ⟨name, rest, heq, hname, hrest⟩ := exists_part (· ≠ '/') (first :: inner)
    refine .inr ⟨String.ofList name, rest, ?_, ⟨?_, ?_⟩, by simpa using hrest⟩
    · rw [String.toList_ofList]
      exact heq
    · -- behind an empty name the first character would be the slash that ends it
      intro hempty
      have hnil : name = [] := by simpa using hempty
      rw [hnil, List.nil_append] at heq
      have hslash : ¬decide (first ≠ '/') := hrest first (by rw [← heq]; rfl)
      exact hslash (decide_eq_true (h first rfl))
    · rw [String.toList_ofList]
      intro hmem
      simpa using hname '/' hmem

/-- Every text has one of the shapes. -/
theorem exists_splits (path : String) : ∃ parts, Splits path parts := by
  obtain ⟨front, inner, hpath, hfront, hinner⟩ := exists_part (· = '/') path.toList
  have hreplicate : front = List.replicate front.length '/' :=
    List.eq_replicate_iff.mpr ⟨rfl, by simpa using hfront⟩
  have hslashes : String.ofList front = slashes front.length := congrArg String.ofList hreplicate
  have heq : path = slashes front.length ++ String.ofList inner := by
    rw [← hslashes, ← String.ofList_append, ← hpath, String.ofList_toList]
  rw [heq]
  rcases exists_service (by simpa using hinner) with rfl | ⟨service, rest, rfl, hservice, hrest⟩
  · rw [String.ofList_nil, String.append_empty]
    exact ⟨_, .bare _⟩
  · -- what stands behind the name is nothing, a slash, or a slash and a method
    rw [String.ofList_append, String.ofList_toList, ← String.append_assoc]
    cases rest with
    | nil =>
      rw [String.ofList_nil, String.append_empty]
      exact ⟨_, .service _ hservice⟩
    | cons slash method =>
      obtain rfl : slash = '/' := hrest slash rfl
      have htail : String.ofList ('/' :: method) = "/" ++ String.ofList method :=
        @String.ofList_append ['/'] method
      rw [htail, ← String.append_assoc]
      by_cases hmethod : String.ofList method = ""
      · rw [hmethod, String.append_empty]
        exact ⟨_, .ended _ hservice⟩
      · exact ⟨_, .complete _ hservice hmethod⟩

/-- Both parts are always there. -/
theorem Splits.isServiceName {path : String} {parts : String × String} (h : Splits path parts) :
    IsServiceName parts.1 ∧ parts.2 ≠ "" := by
  have hunknown : IsServiceName "unknown" := ⟨by decide, by decide⟩
  cases h with
  | bare _ => exact ⟨hunknown, hunknown.ne_empty⟩
  | service _ hservice => exact ⟨hservice, hunknown.ne_empty⟩
  | ended _ hservice => exact ⟨hservice, hunknown.ne_empty⟩
  | complete _ hservice hmethod => exact ⟨hservice, hmethod⟩

theorem splitPath_eq_iff (path : String) (parts : String × String) :
    splitPath path = parts ↔ Splits path parts := by
  constructor
  · intro heq
    obtain ⟨parts', hsplits⟩ := exists_splits path
    rw [hsplits.splitPath_eq] at heq
    exact heq ▸ hsplits
  · exact Splits.splitPath_eq

/-- The paths of the calls tell the service and the name of the call. -/
theorem splitPath_path (method : Method) :
    splitPath method.path = (Method.service, method.name) := by
  have hpath : method.path = slashes 1 ++ Method.service ++ "/" ++ method.name := by
    cases method <;> rfl
  have hname : method.name ≠ "" := by
    cases method <;> decide
  rw [hpath, splitPath_eq_iff]
  exact .complete 1 ⟨by decide, by decide⟩ hname

/-- Splitting a path that was built gives what it was built from, also where the method has slashes
of its own. Every text is split into two parts that are not empty, the first of them without a
slash: behind any slashes in front, the text up to the next slash and all that is behind it, where a
part with nothing in it is unknown. -/
theorem splitting_inverts_building :
    (∀ (n : Nat) (service method : String), IsServiceName service → method ≠ "" →
      splitPath (slashes n ++ service ++ "/" ++ method) = (service, method)) ∧
    ∀ path : String,
      IsServiceName (splitPath path).1 ∧ (splitPath path).2 ≠ "" ∧
        ∀ parts, splitPath path = parts ↔ Splits path parts := by
  constructor
  · intro n service method hservice hmethod
    exact (Splits.complete n hservice hmethod).splitPath_eq
  · intro path
    have hsplits : Splits path (splitPath path) := (splitPath_eq_iff path _).mp rfl
    obtain ⟨hservice, hmethod⟩ := hsplits.isServiceName
    exact ⟨hservice, hmethod, splitPath_eq_iff path⟩

/-- A method that begins and ends with a slash, behind three slashes and a name. -/
theorem splitting_inverts_building_slashes :
    IsServiceName "pcbook.LaptopService" ∧
      splitPath "///pcbook.LaptopService//Find/" = ("pcbook.LaptopService", "/Find/") := by
  have hname : IsServiceName "pcbook.LaptopService" := ⟨by decide, by decide⟩
  have hpath : "///pcbook.LaptopService//Find/" =
      slashes 3 ++ "pcbook.LaptopService" ++ "/" ++ "/Find/" := by decide +kernel
  rw [hpath]
  exact ⟨hname, splitting_inverts_building.1 3 _ "/Find/" hname (by decide)⟩

end LaptopCatalogue.Grpc
