import LaptopCatalogue.Service.Call
import LaptopCatalogue.Store.Catalogue
import LaptopCatalogue.Proofs.Id.Bits

/-!
# Which id a record gets

A record without an id gets a random one, and every other id must be the text of a UUID, which is
then kept as it was written.

* `Service.generated_ids_tell_entropy`: the random id of an entropy, and when two are the same.
* `Service.given_ids_follow_grammar`: which ids are accepted, and what becomes of the others.
* `Service.capital_resource_name_is_accepted`: the beginning of a resource name may have capitals.
-/

namespace LaptopCatalogue.Service

/-! ## Generated ids -/

theorem resolveId_empty (entropy : Uuid) :
    (resolveId "" entropy).answer = .ok entropy.version4.text :=
  congrArg Handled.answer (if_pos rfl)

/-- Generated ids are a text of their entropy. For every sixteen bytes, the id has 36 characters, is
made of small hexadecimal digits in groups of 8, 4, 4, 4 and 12, and is read as a UUID whose bits
are those of the entropy, apart from the four that give version 4 and the two that give the variant.
So two entropies have the same id exactly if they agree on the other 122 bits. -/
theorem generated_ids_tell_entropy (entropy : Uuid) :
    (∃ id uuid, (resolveId "" entropy).answer = .ok id ∧ id.length = 36 ∧
      (∃ ds, Uuid.Grouped ds id.toList ∧ ∀ c ∈ ds, c ∈ "0123456789abcdef".toList) ∧
      Uuid.parse id = .ok uuid ∧
      ∀ i, uuid.bit i = (Uuid.stamp? i).getD (entropy.bit i)) ∧
    Uuid.randomBits.length = 122 ∧
    ∀ entropy' : Uuid, (resolveId "" entropy).answer = (resolveId "" entropy').answer ↔
      ∀ i ∈ Uuid.randomBits, entropy.bit i = entropy'.bit i := by
  refine ⟨?_, ?_, ?_⟩
  · have hgroups := Uuid.grouped_text entropy.version4
    have hlength : entropy.version4.text.length = 36 := by
      rw [← String.length_toList]
      exact Uuid.length_of_grouped hgroups
    exact ⟨_, _, resolveId_empty entropy, hlength, ⟨_, hgroups, Uuid.mem_of_mem_digits⟩,
      Uuid.parse_text _, Uuid.bit_version4 entropy⟩
  · decide +kernel
  · intro entropy'
    rw [resolveId_empty, resolveId_empty, Except.ok.injEq, Uuid.text_inj, Uuid.version4_eq_iff]

/-! ## Given ids -/

/-- An id that a client gives is accepted if it is the text of a UUID, and then kept. -/
theorem resolveId_of_isText {id : String} (h : Uuid.IsText id.toList) (entropy : Entropy) :
    (resolveId id entropy).answer = .ok id := by
  have hparse : (Uuid.parse id).isOk := (Uuid.isOk_parse_iff id).mpr h
  rcases resolveId_cases id entropy with ⟨rfl, _⟩ | ⟨rfl, _⟩ | ⟨_, _, hresolved⟩ | ⟨_, hrefused, _⟩
  · -- the empty text is no UUID
    cases hparse
  · cases hparse
  · exact congrArg Handled.answer hresolved
  · exact absurd hparse hrefused

/-- Any other id is refused, and the status says what is wrong with it. -/
theorem resolveId_of_not_isText {id : String} (hid : id ≠ "") (h : ¬Uuid.IsText id.toList)
    (entropy : Entropy) :
    ∃ reason, (resolveId id entropy).answer =
      .error ⟨.invalidArgument, "laptop ID is not a valid UUID: " ++ reason⟩ := by
  rcases resolveId_cases id entropy with
    ⟨hempty, _⟩ | ⟨hempty, _⟩ | ⟨_, hparse, _⟩ | ⟨_, _, reason, hresolved⟩
  · exact absurd hempty hid
  · exact absurd hempty hid
  · exact absurd ((Uuid.isOk_parse_iff id).mp hparse) h
  · exact ⟨reason, congrArg Handled.answer hresolved⟩

/-- A record whose id is refused is not created, and the store stays as it is. -/
theorem create_of_refused {σ : Type} (store : Store σ) {entropy : Entropy}
    {request : CreateRequest} {laptop : Laptop} {status : Status}
    (hlaptop : request.laptop = some laptop)
    (hrefused : (resolveId laptop.id entropy).answer = .error status) (s : σ) :
    (create store entropy request s).1.answer = .error status ∧
      (create store entropy request s).2 = s := by
  unfold create
  rw [hlaptop]
  simp only [hrefused]
  exact ⟨trivial, trivial⟩

/-- Ids that clients give follow the grammar of UUIDs. An id that is not empty is accepted exactly
if it is 32 hexadecimal digits in either case, or these in groups of 8, 4, 4, 4 and 12 with hyphens
between them, or such groups in one pair of braces, or behind `urn:uuid:` in either case of its
letters. It is then kept as it was written. The texts of all forms that have the same digits, in
either case, are read as the same UUID. With any other id a request is an invalid argument, whose
status says that the id is not a UUID, and nothing is stored. -/
theorem given_ids_follow_grammar {id : String} (hid : id ≠ "") (entropy : Entropy) :
    ((∃ resolved, (resolveId id entropy).answer = .ok resolved) ↔ Uuid.IsText id.toList) ∧
    (∀ resolved, (resolveId id entropy).answer = .ok resolved → resolved = id) ∧
    (∀ name ds, Uuid.lower name = Uuid.resourceName → (∀ c ∈ ds, Uuid.IsHexDigit c) →
      Uuid.InForm name ds id.toList →
      ∃ uuid, Uuid.parse id = .ok uuid ∧
        ∀ name' ds' (other : String), Uuid.lower name' = Uuid.resourceName →
          Uuid.lower ds' = Uuid.lower ds → Uuid.InForm name' ds' other.toList →
          Uuid.parse other = .ok uuid) ∧
    (¬Uuid.IsText id.toList →
      ∃ reason, ∀ (σ : Type) (store : Store σ) request laptop s,
        request.laptop = some laptop → laptop.id = id →
        (create store entropy request s).1.answer =
            .error ⟨.invalidArgument, "laptop ID is not a valid UUID: " ++ reason⟩ ∧
          (create store entropy request s).2 = s) := by
  have hrefused : ¬Uuid.IsText id.toList → ∃ reason, (resolveId id entropy).answer =
      .error ⟨.invalidArgument, "laptop ID is not a valid UUID: " ++ reason⟩ :=
    fun htext => resolveId_of_not_isText hid htext entropy
  have haccepted : ∀ resolved, (resolveId id entropy).answer = .ok resolved →
      Uuid.IsText id.toList := by
    intro resolved hresolved
    by_contra htext
    obtain ⟨reason, herror⟩ := hrefused htext
    rw [herror] at hresolved
    cases hresolved
  refine ⟨⟨?_, ?_⟩, ?_, ?_, ?_⟩
  · rintro ⟨resolved, hresolved⟩
    exact haccepted resolved hresolved
  · intro htext
    exact ⟨id, resolveId_of_isText htext entropy⟩
  · intro resolved hresolved
    have hkept := resolveId_of_isText (haccepted resolved hresolved) entropy
    rw [hresolved, Except.ok.injEq] at hkept
    exact hkept
  · intro name ds hname hds hform
    obtain ⟨uuid, hdigits, hparse⟩ := hform.exists_parse hname hds
    refine ⟨uuid, hparse, ?_⟩
    intro name' ds' other hname' hsame hform'
    exact (Uuid.parse_eq_ok_iff_inForm other uuid).mpr
      ⟨name', ds', hname', hsame.trans hdigits, hform'⟩
  · intro htext
    obtain ⟨reason, herror⟩ := hrefused htext
    refine ⟨reason, ?_⟩
    rintro σ store request laptop s hlaptop rfl
    exact create_of_refused store hlaptop herror s

/-- An id in braces with capitals is kept, and is read like its small digits alone. An id of
eighteen letters of two bytes each, which are as many bytes as a UUID in groups has, is refused. -/
theorem given_ids_follow_grammar_braced :
    let entropy : Uuid := ⟨List.replicate 16 0, rfl⟩
    let id := "\x7b2BD0A8F3-6F5C-4B8E-9D3C-6A2F1E7C9B10\x7d"
    let small := "2bd0a8f36f5c4b8e9d3c6a2f1e7c9b10"
    let letters := "éééééééééééééééééé"
    let request : CreateRequest := { laptop := some { id := letters } }
    id ≠ "" ∧ (resolveId id entropy).answer = .ok id ∧
      (∃ uuid, Uuid.parse id = .ok uuid ∧ Uuid.parse small = .ok uuid) ∧
      letters ≠ "" ∧ letters.utf8ByteSize = 36 ∧
      ∃ reason,
        (create Catalogue.store entropy request .empty).1.answer =
          .error ⟨.invalidArgument, "laptop ID is not a valid UUID: " ++ reason⟩ ∧
        (create Catalogue.store entropy request .empty).2 = .empty := by
  intro entropy id small letters request
  have hid : id ≠ "" := by decide
  have hletters : letters ≠ "" := by decide
  obtain ⟨hiff, hkept, hsame, -⟩ := given_ids_follow_grammar hid entropy
  obtain ⟨-, -, -, hrefused⟩ := given_ids_follow_grammar hletters entropy
  -- the id in its form, and then what is said of it
  have hgroups : Uuid.Grouped "2BD0A8F36F5C4B8E9D3C6A2F1E7C9B10".toList
      "2BD0A8F3-6F5C-4B8E-9D3C-6A2F1E7C9B10".toList :=
    ⟨"2BD0A8F3".toList, "6F5C".toList, "4B8E".toList, "9D3C".toList, "6A2F1E7C9B10".toList,
      by decide +kernel⟩
  have hbraces : id.toList = '{' :: "2BD0A8F3-6F5C-4B8E-9D3C-6A2F1E7C9B10".toList ++ ['}'] := by
    decide +kernel +zetaReduce
  have hform :
      Uuid.InForm Uuid.resourceName "2BD0A8F36F5C4B8E9D3C6A2F1E7C9B10".toList id.toList := by
    rw [hbraces]
    exact .braced hgroups
  have hname : Uuid.lower Uuid.resourceName = Uuid.resourceName := by decide
  have hall :
      "2BD0A8F36F5C4B8E9D3C6A2F1E7C9B10".toList.all fun c => decide (Uuid.IsHexDigit c) := by
    decide +kernel
  have hds : ∀ c ∈ "2BD0A8F36F5C4B8E9D3C6A2F1E7C9B10".toList, Uuid.IsHexDigit c :=
    fun c hc => of_decide_eq_true (List.all_eq_true.mp hall c hc)
  obtain ⟨resolved, hresolved⟩ := hiff.mpr ⟨_, _, hname, hds, hform⟩
  obtain ⟨uuid, hparse, hspelled⟩ := hsame _ _ hname hds hform
  have hsmall : Uuid.parse small = .ok uuid :=
    hspelled Uuid.resourceName small.toList small hname (by decide +kernel +zetaReduce)
      (.plain (by decide +kernel +zetaReduce))
  -- no form has eighteen characters
  have hlength : letters.toList.length = 18 := by decide +kernel +zetaReduce
  have hnone : ¬Uuid.IsText letters.toList := by
    intro htext
    obtain ⟨spelling, hspelling⟩ := htext.exists_length
    rw [hlength] at hspelling
    cases spelling <;> cases hspelling
  obtain ⟨reason, hcreate⟩ := hrefused hnone
  refine ⟨hid, ?_, ⟨uuid, hparse, hsmall⟩, hletters, by decide +kernel +zetaReduce, reason, ?_⟩
  · rw [hresolved, hkept resolved hresolved]
  · exact hcreate Catalogue Catalogue.store request _ .empty rfl rfl

/-- A UUID behind the beginning of a resource name in capitals is accepted, although it has none of
the forms with `urn:uuid:` as it stands. -/
theorem capital_resource_name_is_accepted :
    let entropy : Uuid := ⟨List.replicate 16 0, rfl⟩
    let id := "URN:UUID:2bd0a8f3-6f5c-4b8e-9d3c-6a2f1e7c9b10"
    id ≠ "" ∧ (resolveId id entropy).answer = .ok id ∧
      ¬∃ ds, (∀ c ∈ ds, Uuid.IsHexDigit c) ∧ Uuid.InForm "urn:uuid:".toList ds id.toList := by
  intro entropy id
  refine ⟨by decide, by decide +kernel +zetaReduce, ?_⟩
  rintro ⟨ds, -, hform⟩
  have hlength : id.toList.length = 45 := by decide +kernel +zetaReduce
  have hfirst : id.toList.head? = some 'U' := by decide +kernel +zetaReduce
  have hname : "urn:uuid:".toList = 'u' :: "rn:uuid:".toList := by decide
  generalize id.toList = cs at hform hlength hfirst
  cases hform with
  | plain hdigits =>
    rw [hdigits] at hlength
    cases hlength
  | grouped hgroups =>
    rw [Uuid.length_of_grouped hgroups] at hlength
    cases hlength
  | braced hgroups => simp at hfirst
  | named hgroups => simp [hname] at hfirst

end LaptopCatalogue.Service
