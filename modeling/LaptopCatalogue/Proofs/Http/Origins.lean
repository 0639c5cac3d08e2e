import Mathlib.Data.List.Infix
import LaptopCatalogue.Http.Origin
import LaptopCatalogue.Http.Target

/-!
# Which origins are allowed

Origins are configured by the texts they begin with. Where both sides are written as a scheme, a
host and perhaps a port, this says what may follow: a host may go on, if no port is configured, and
a port may go on.

* `WebOrigin`: an origin in its parts, `WebOrigin.text` its text.
* `IsHost.ne_append_colon`: a host does not go on behind a colon, which is why the parts of a text
  can be told apart.
* `WebOrigin.Covers`: what beginning with a configured origin comes to, part by part.
* `allowed_origins_begin_with_configured`: which origins a list of configured ones allows.
-/

namespace LaptopCatalogue.Http

/-! ## Origins in their parts -/

/-- The characters of a host without brackets: those that do not end it, divide it from a user or a
port, or enclose it. -/
def isHostChar (c : Char) : Bool :=
  c ≠ '/' && !endsPath c && c ≠ '@' && c ≠ ':' && c ≠ '[' && c ≠ ']'

/-- The hosts: names and addresses without a colon, and addresses in brackets, which may have
some. -/
inductive IsHost : List Char → Prop where
  | plain {cs : List Char} (hne : cs ≠ []) (hchars : ∀ c ∈ cs, isHostChar c) : IsHost cs
  | bracketed {cs : List Char} (hchars : ∀ c ∈ cs, isHostChar c ∨ c = ':') :
      IsHost ('[' :: (cs ++ [']']))

/-- The numbers of ports, in decimal digits. -/
def IsPort (cs : List Char) : Prop := cs ≠ [] ∧ ∀ c ∈ cs, c.isDigit

/-- An origin in its parts. -/
structure WebOrigin where
  scheme : List Char
  host : List Char
  port : Option (List Char)
  isScheme : scheme ≠ [] ∧ ∀ c ∈ scheme, isSchemeChar c
  isHost : IsHost host
  isPort : ∀ p ∈ port, IsPort p

namespace WebOrigin

/-- What stands behind the host. -/
def portText : Option (List Char) → List Char
  | none => []
  | some p => ':' :: p

def text (origin : WebOrigin) : String :=
  String.ofList (origin.scheme ++ ':' :: '/' :: '/' :: (origin.host ++ portText origin.port))

theorem toList_text (origin : WebOrigin) :
    origin.text.toList =
      origin.scheme ++ ':' :: '/' :: '/' :: (origin.host ++ portText origin.port) :=
  String.toList_ofList

/-- The text of a configured origin begins the text of another one: the schemes are the same, and
either the first names no port and its host begins the other's host, or the hosts are the same and
its port begins the other's port. -/
def Covers (configured origin : WebOrigin) : Prop :=
  configured.scheme = origin.scheme ∧
  match configured.port with
  | none => configured.host <+: origin.host
  | some p => configured.host = origin.host ∧ ∃ p', origin.port = some p' ∧ p <+: p'

end WebOrigin

/-! ## Telling parts apart -/

section

variable {α : Type} {mark : α} {part part' rest rest' : List α}

/-- A part that does not go on behind a mark is not longer than what stands in front of the mark. -/
theorem prefix_append_cons_iff (h : ∀ t, part ≠ part' ++ mark :: t) :
    part <+: part' ++ mark :: rest ↔ part <+: part' := by
  constructor
  · rintro ⟨tail, htail⟩
    rcases List.append_eq_append_iff.mp htail with ⟨more, hpart', _⟩ | ⟨more, hpart, hrest⟩
    · exact ⟨more, hpart'.symm⟩
    · cases more with
      | nil => exact ⟨[], by rw [hpart, List.append_nil, List.append_nil]⟩
      | cons first more =>
        have hfirst : mark = first := (List.cons.inj hrest).1
        subst hfirst
        exact absurd hpart (h more)
  · intro hprefix
    exact hprefix.trans (List.prefix_append _ _)

/-- Two parts in front of the same mark, neither of which goes on behind it, are equal if one text
begins the other. -/
theorem append_cons_prefix_iff (h : ∀ t, part ≠ part' ++ mark :: t)
    (h' : ∀ t, part' ≠ part ++ mark :: t) :
    part ++ mark :: rest <+: part' ++ mark :: rest' ↔ part = part' ∧ rest <+: rest' := by
  constructor
  · intro hprefix
    have hshort : part <+: part' :=
      (prefix_append_cons_iff h).mp ((List.prefix_append _ _).trans hprefix)
    obtain ⟨more, hmore⟩ := hshort
    subst hmore
    rw [List.append_assoc, List.prefix_append_right_inj] at hprefix
    cases more with
    | nil => exact ⟨(List.append_nil part).symm, (List.cons_prefix_cons.mp hprefix).2⟩
    | cons first more =>
      have hfirst : mark = first := (List.cons_prefix_cons.mp hprefix).1
      subst hfirst
      exact absurd rfl (h' more)
  · rintro ⟨rfl, hrest⟩
    rw [List.prefix_append_right_inj, List.cons_prefix_cons]
    exact ⟨rfl, hrest⟩

end

theorem WebOrigin.scheme_ne_append_colon (origin : WebOrigin) (start t : List Char) :
    origin.scheme ≠ start ++ ':' :: t := by
  intro heq
  have hcolon : isSchemeChar ':' := origin.isScheme.2 ':' (by rw [heq]; simp)
  exact absurd hcolon (by decide)

/-- A host does not go on behind a colon: the only colons in it stand in brackets, and nothing that
ends in front of them is a host. -/
theorem IsHost.ne_append_colon {host start : List Char} (hhost : IsHost host)
    (hstart : IsHost start) (t : List Char) : host ≠ start ++ ':' :: t := by
  intro heq
  cases hhost with
  | plain _ hchars =>
    have hcolon : isHostChar ':' := hchars ':' (by rw [heq]; simp)
    exact absurd hcolon (by decide)
  | @bracketed cs hchars =>
    cases hstart with
    | plain hne hplain =>
      -- the first character is a bracket, which no plain host has
      obtain ⟨first, start, rfl⟩ := List.exists_cons_of_ne_nil hne
      have hfirst : '[' = first := (List.cons.inj heq).1
      have hbracket : isHostChar '[' := hplain '[' (by rw [hfirst]; simp)
      exact absurd hbracket (by decide)
    | @bracketed ds _ =>
      -- the closing bracket of the shorter one would stand inside of the longer one
      have hinner : cs ++ [']'] = (ds ++ [']']) ++ ':' :: t := (List.cons.inj heq).2
      have hlast : ':' :: t ≠ [] := List.cons_ne_nil _ _
      have hdrop := congrArg List.dropLast hinner
      rw [List.dropLast_concat, List.dropLast_append_of_ne_nil hlast] at hdrop
      have hmem : ']' ∈ cs := by rw [hdrop]; simp
      rcases hchars ']' hmem with hchar | hchar
      · exact absurd hchar (by decide)
      · exact absurd hchar (by decide)

namespace WebOrigin

variable (configured origin : WebOrigin)

/-- Hosts with what stands behind them, compared part by part. -/
theorem host_prefix_iff :
    configured.host ++ portText configured.port <+: origin.host ++ portText origin.port ↔
      match configured.port with
      | none => configured.host <+: origin.host
      | some p => configured.host = origin.host ∧ ∃ p', origin.port = some p' ∧ p <+: p' := by
  have h := configured.isHost.ne_append_colon origin.isHost
  have h' := origin.isHost.ne_append_colon configured.isHost
  cases configured.port with
  | none =>
    cases origin.port with
    | none => simp only [portText, List.append_nil]
    | some q =>
      simp only [portText, List.append_nil]
      exact prefix_append_cons_iff h
  | some p =>
    cases origin.port with
    | none =>
      simp only [portText, List.append_nil]
      constructor
      · rintro ⟨tail, htail⟩
        rw [List.append_assoc, List.cons_append] at htail
        exact absurd htail.symm (h' _)
      · rintro ⟨_, _, hnone, _⟩
        cases hnone
    | some q =>
      simp only [portText, Option.some.injEq, exists_eq_left']
      exact append_cons_prefix_iff h h'

theorem text_prefix_iff : configured.text.toList <+: origin.text.toList ↔
    configured.Covers origin := by
  rw [toList_text, toList_text, append_cons_prefix_iff (configured.scheme_ne_append_colon _)
    (origin.scheme_ne_append_colon _), List.cons_prefix_cons, List.cons_prefix_cons,
    host_prefix_iff]
  simp only [true_and]
  rfl

theorem text_ne_star : configured.text ≠ "*" := by
  intro heq
  have hcolon : ':' ∈ configured.text.toList := by rw [toList_text]; simp
  rw [heq] at hcolon
  exact absurd hcolon (by decide)

end WebOrigin

/-! ## The origins that are allowed -/

/-- Without a star the allowed origins are those that begin with a configured text. -/
theorem originAllowed_iff_begins {configured : List WebOrigin} {origin : String} :
    originAllowed origin (configured.map WebOrigin.text) ↔
      ∃ c ∈ configured, c.text.toList <+: origin.toList := by
  simp only [originAllowed, List.any_map, List.any_eq_true, Function.comp_apply, Bool.or_eq_true,
    decide_eq_true_eq, List.isPrefixOf_iff_prefix, WebOrigin.text_ne_star, false_or]

/-- An allowed origin begins with a configured one. Whatever text follows, it is allowed. An origin
in its parts is allowed exactly if its scheme is that of a configured origin and, where that one
names no port, the configured host begins its host, or, where it names one, the hosts are the same
and the configured port begins its port. -/
theorem allowed_origins_begin_with_configured (configured : List WebOrigin) :
    (∀ origin : String, originAllowed origin (configured.map WebOrigin.text) ↔
      ∃ c ∈ configured, ∃ rest, origin = c.text ++ rest) ∧
    (∀ origin : WebOrigin, originAllowed origin.text (configured.map WebOrigin.text) ↔
      ∃ c ∈ configured, c.Covers origin) := by
  constructor
  · intro origin
    rw [originAllowed_iff_begins]
    constructor
    · rintro ⟨c, hc, rest, hrest⟩
      refine ⟨c, hc, String.ofList rest, ?_⟩
      rw [← String.toList_inj, String.toList_append, String.toList_ofList, hrest]
    · rintro ⟨c, hc, rest, rfl⟩
      refine ⟨c, hc, rest.toList, ?_⟩
      rw [String.toList_append]
  · intro origin
    rw [originAllowed_iff_begins]
    constructor
    · rintro ⟨c, hc, hprefix⟩
      exact ⟨c, hc, (c.text_prefix_iff origin).mp hprefix⟩
    · rintro ⟨c, hc, hcovers⟩
      exact ⟨c, hc, (c.text_prefix_iff origin).mpr hcovers⟩

-- a port goes on
example : originAllowed "http://localhost:8080" ["http://localhost:80"] := by decide +kernel

/-! ## The default origins -/

/-- An origin that names no port, from texts. -/
def WebOrigin.portless (scheme host : String)
    (hscheme : scheme.toList ≠ [] ∧ scheme.toList.all isSchemeChar)
    (hhost : host.toList ≠ [] ∧ host.toList.all isHostChar) : WebOrigin where
  scheme := scheme.toList
  host := host.toList
  port := none
  isScheme := ⟨hscheme.1, List.all_eq_true.mp hscheme.2⟩
  isHost := .plain hhost.1 (List.all_eq_true.mp hhost.2)
  isPort := by simp

/-- The default origins in their parts. -/
def defaultWebOrigins : List WebOrigin :=
  [.portless "http" "localhost" (by decide) (by decide),
    .portless "https" "localhost" (by decide) (by decide),
    .portless "http" "127.0.0.1" (by decide) (by decide),
    .portless "https" "127.0.0.1" (by decide) (by decide)]

theorem map_text_defaultWebOrigins : defaultWebOrigins.map WebOrigin.text = defaultOrigins := by
  decide +kernel

/-- An allowed origin need not be a configured one, nor a configured one with a port behind it: the
default origins allow one whose host merely begins with a configured host. -/
theorem default_origins_allow_longer_host :
    ¬∀ (configured : List WebOrigin) (origin : String),
      normalizeOrigins (configured.map WebOrigin.text) = configured.map WebOrigin.text →
      originAllowed origin (configured.map WebOrigin.text) →
        (∃ c ∈ configured, origin = c.text) ∨
        ∃ c ∈ configured, c.port = none ∧
          ∃ p, IsPort p ∧ origin = c.text ++ ":" ++ String.ofList p := by
  intro h
  have hnormalised : normalizeOrigins (defaultWebOrigins.map WebOrigin.text) =
      defaultWebOrigins.map WebOrigin.text := by
    rw [map_text_defaultWebOrigins]
    decide +kernel
  have hallowed : originAllowed "http://localhost.evil.example"
      (defaultWebOrigins.map WebOrigin.text) := by
    rw [map_text_defaultWebOrigins]
    decide +kernel
  have hdefault : ∀ c ∈ defaultWebOrigins, c.text ∈ defaultOrigins := by
    intro c hc
    rw [← map_text_defaultWebOrigins]
    exact List.mem_map_of_mem hc
  rcases h _ _ hnormalised hallowed with ⟨c, hc, heq⟩ | ⟨c, hc, _, p, _, heq⟩
  · have hmem := hdefault c hc
    rw [← heq] at hmem
    exact absurd hmem (by decide +kernel)
  · have hmem := hdefault c hc
    generalize c.text = configuredText at heq hmem
    rw [← String.toList_inj, String.toList_append, String.toList_append] at heq
    simp only [defaultOrigins, List.mem_cons, List.not_mem_nil, or_false] at hmem
    rcases hmem with rfl | rfl | rfl | rfl <;> simp at heq

end LaptopCatalogue.Http
