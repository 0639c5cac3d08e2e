import LaptopCatalogue.Config.File
import LaptopCatalogue.Service.Search
import LaptopCatalogue.Store.Catalogue
import LaptopCatalogue.Proofs.Toml.Decimals
import LaptopCatalogue.Proofs.Toml.Integers

/-!
# The buffers that can be configured

A buffer is a size, and a file gives it as an integer of TOML, so the buffers that can be configured
are the numbers of at most 63 binary digits. A channel takes less: searches run up to the largest
channel that can be made, and beyond it none does, whatever it asks for.

* `SearchConfig.streamBuffer_lt`: no file configures a larger buffer.
* `bufferDocument`: a document for each of these buffers. `SearchConfig.load_bufferDocument` says
  that it is read as that buffer.
* `SearchConfig.ServesAll` and `SearchConfig.ServesNone`: what becomes of searches.
* `accepted_buffers_serve_up_to_largest_channel`: what files can configure, and what it serves.
-/

namespace LaptopCatalogue

/-! ## What can be read -/

theorem readSize_lt {value : Toml.Value} (hvalue : value.Fits) {n : Nat}
    (h : readSize value = .ok n) : n < Nat.pow 2 63 := by
  cases hvalue with
  | @integer m hm =>
    simp only [readSize] at h
    split at h
    · cases h
    · cases h
      have hpow : Int.pow 2 63 = (Nat.pow 2 63 : Nat) := by decide
      have hlt := hm.2
      omega
  | _ => cases h

namespace SearchConfig

theorem streamBuffer_default_lt : default.streamBuffer < Nat.pow 2 63 := by decide

theorem streamBuffer_lt_of_ofEntries {config config' : SearchConfig}
    {entries : List (String × Toml.Value)} (hentries : ∀ e ∈ entries, e.2.Fits)
    (hconfig : config.streamBuffer < Nat.pow 2 63) (h : ofEntries config entries = .ok config') :
    config'.streamBuffer < Nat.pow 2 63 := by
  induction entries generalizing config with
  | nil =>
    cases h
    exact hconfig
  | cons e entries ih =>
    obtain ⟨key, value⟩ := e
    obtain ⟨hvalue, hrest⟩ := List.forall_mem_cons.mp hentries
    unfold ofEntries at h
    split at h
    · cases hsize : readSize value with
      | error misfit =>
        rw [hsize] at h
        cases h
      | ok n =>
        rw [hsize] at h
        exact ih hrest (readSize_lt hvalue hsize) h
    · cases h

theorem streamBuffer_lt_of_ofValue {value : Toml.Value} (hvalue : value.Fits)
    {config : SearchConfig} (h : ofValue value = .ok config) :
    config.streamBuffer < Nat.pow 2 63 := by
  cases hvalue with
  | table hentries => exact streamBuffer_lt_of_ofEntries hentries streamBuffer_default_lt h
  | @array items hitems =>
    cases items with
    | nil =>
      cases h
      exact streamBuffer_default_lt
    | cons value items =>
      -- the first item is the buffer, the others do not count
      have hread : (readSize value).map (fun n => ({ streamBuffer := n } : SearchConfig)) =
          .ok config := h
      cases hsize : readSize value with
      | error misfit =>
        rw [hsize] at hread
        cases hread
      | ok n =>
        rw [hsize] at hread
        cases hread
        exact readSize_lt (hitems value List.mem_cons_self) hsize
  | _ => cases h

theorem streamBuffer_lt_of_ofDocument {root : List (String × Toml.Value)}
    (hroot : ∀ e ∈ root, e.2.Fits) {config : SearchConfig} (h : ofDocument root = .ok config) :
    config.streamBuffer < Nat.pow 2 63 := by
  unfold ofDocument at h
  split at h
  · rename_i value hfind
    have hvalue := hroot _ (List.mem_of_find?_eq_some hfind)
    exact streamBuffer_lt_of_ofValue hvalue h
  · cases h
    exact streamBuffer_default_lt

theorem streamBuffer_lt_of_ofText {text : String} {config : SearchConfig}
    (h : ofText text = .ok config) : config.streamBuffer < Nat.pow 2 63 := by
  unfold ofText at h
  split at h
  · cases h
  · rename_i root hroot
    cases hdocument : ofDocument root with
    | error misfit =>
      rw [hdocument] at h
      cases h
    | ok found =>
      rw [hdocument] at h
      cases h
      exact streamBuffer_lt_of_ofDocument (Toml.fits_of_read? hroot) hdocument

/-- No file configures a buffer of more than 63 binary digits. -/
theorem streamBuffer_lt {state : PathState} {config : SearchConfig} (h : load state = .ok config) :
    config.streamBuffer < Nat.pow 2 63 := by
  unfold load at h
  split at h
  · cases h
    exact streamBuffer_default_lt
  · cases h
  · split at h
    · cases h
    · exact streamBuffer_lt_of_ofText h

end SearchConfig

/-! ## A document for each buffer -/

/-- The document that configures a buffer, written as people write it. -/
def bufferDocument (n : Nat) : String := "[search]\nstream_buffer = " ++ toString n

theorem toList_bufferDocument (n : Nat) :
    (bufferDocument n).toList = "[search]\nstream_buffer = ".toList ++ Nat.toDigits 10 n := by
  unfold bufferDocument
  rw [String.toList_append, Nat.toString_eq_repr, Nat.toList_repr]

namespace Toml

theorem lineRead?_header (behind : List Char) :
    Line.read? ("[search]\nstream_buffer = ".toList ++ behind) =
      some (.table [] "search", '\n' :: ("stream_buffer = ".toList ++ behind)) := rfl

theorem lineRead?_buffer {behind rest : List Char} {value : Value}
    (h : value? maxNesting (skipBlanks (' ' :: behind)) = some (value, rest)) :
    Line.read? ("stream_buffer = ".toList ++ behind) =
      some (.entry [] streamBufferKey value, rest) := by
  change ((value? maxNesting (skipBlanks (' ' :: behind))).bind fun read =>
      some ((([], streamBufferKey), read.1), read.2)).bind
    (fun read => some (Line.entry read.1.1.1 read.1.1.2 read.1.2, read.2)) = _
  rw [h]
  rfl

theorem lines?_bufferDocument {n : Nat} (h : n < Nat.pow 2 63) (budget : Nat) :
    lines? (budget + 2) ("[search]\nstream_buffer = ".toList ++ Nat.toDigits 10 n) =
      some [.table [] "search", .entry [] streamBufferKey (.integer n)] := by
  have hvalue : value? maxNesting (skipBlanks (' ' :: Nat.toDigits 10 n)) =
      some (.integer n, []) := by
    rw [skipBlanks_toDigits]
    exact value?_toDigits h maxNesting
  have hlast : lines? (budget + 1) ("stream_buffer = ".toList ++ Nat.toDigits 10 n) =
      some [.entry [] streamBufferKey (.integer n)] := by
    unfold lines?
    rw [lineRead?_buffer hvalue]
    rfl
  unfold lines?
  rw [lineRead?_header]
  change (lines? (budget + 1) ("stream_buffer = ".toList ++ Nat.toDigits 10 n)).map
    (Line.table [] "search" :: ·) = _
  rw [hlast]
  rfl

theorem skipByteOrderMark_header (behind : List Char) :
    skipByteOrderMark ("[search]\nstream_buffer = ".toList ++ behind) =
      "[search]\nstream_buffer = ".toList ++ behind := rfl

theorem read?_bufferDocument {n : Nat} (h : n < Nat.pow 2 63) :
    read? (bufferDocument n) = some [("search", .table [(streamBufferKey, .integer n)])] := by
  -- a budget of two is enough, and every character of the text adds one
  have hlines := lines?_bufferDocument h
    ("search]\nstream_buffer = ".toList ++ Nat.toDigits 10 n).length
  unfold read?
  rw [toList_bufferDocument, skipByteOrderMark_header]
  change (lines? (("search]\nstream_buffer = ".toList ++ Nat.toDigits 10 n).length + 2) _).bind
    (fun lines => (fill? (sections lines).1 []).bind fun entries =>
      ((sections lines).2.foldlM Section.add? entries).bind fun root =>
        some (entryValues root)) = _
  rw [hlines]
  rfl

end Toml

namespace SearchConfig

/-- A file with a text in it is read as that text. -/
theorem load_file (text : String) : load (.file text.toByteArray.data.toList) = ofText text := by
  have htext : textOfBytes? text.toByteArray.data.toList = some text :=
    (textOfBytes?_eq_some_iff _ text).mpr rfl
  simp only [load, htext]

theorem load_bufferDocument {n : Nat} (h : n < Nat.pow 2 63) :
    load (.file (bufferDocument n).toByteArray.data.toList) = .ok { streamBuffer := n } := by
  have hentries : ofEntries default [(streamBufferKey, .integer n)] =
      .ok { streamBuffer := n } := by
    have hsize : readSize (.integer n) = .ok n := by
      simp [readSize]
    unfold ofEntries
    rw [if_pos rfl, hsize]
    rfl
  have hdocument : ofDocument [("search", .table [(streamBufferKey, .integer n)])] =
      .ok { streamBuffer := n } := hentries
  rw [load_file, ofText, Toml.read?_bufferDocument h]
  simp only [hdocument]
  rfl

/-! ## What is served -/

section

variable (config : SearchConfig)

/-- Every search runs: the store is asked, and what it scans is streamed. -/
def ServesAll : Prop :=
  ∀ ⦃σ : Type⦄ (store : Store σ) (request : SearchRequest) (s : σ),
    (Service.search store config.effectiveBuffer request s).2 =
      (some (Stream.start config.effectiveBuffer (store.search (request.filter.getD {}) s).1),
        (store.search (request.filter.getD {}) s).2)

/-- No search runs: each is aborted before the store is asked. -/
def ServesNone : Prop :=
  ∀ ⦃σ : Type⦄ (store : Store σ) (request : SearchRequest) (s : σ),
    (Service.search store config.effectiveBuffer request s).2 = (none, s)

theorem capacityFor_effectiveBuffer :
    Stream.capacityFor config.effectiveBuffer = max 1 config.streamBuffer := by
  unfold Stream.capacityFor effectiveBuffer
  omega

theorem one_le_capacityFor_effectiveBuffer : 1 ≤ Stream.capacityFor config.effectiveBuffer := by
  rw [capacityFor_effectiveBuffer]
  exact Nat.le_max_left _ _

/-- Only the configured buffer can be too large. -/
theorem admitted_iff :
    Stream.capacityFor config.effectiveBuffer ≤ Stream.maxCapacity ↔
      config.streamBuffer ≤ Stream.maxCapacity := by
  have hone : 1 ≤ Stream.maxCapacity := by decide
  rw [capacityFor_effectiveBuffer]
  omega

theorem servesAll_of_le (h : config.streamBuffer ≤ Stream.maxCapacity) : config.ServesAll := by
  intro σ store request s
  rw [Service.search_of_admitted store request s ((admitted_iff config).mpr h)]

theorem servesNone_of_lt (h : Stream.maxCapacity < config.streamBuffer) : config.ServesNone := by
  intro σ store request s
  have hnot : ¬Stream.capacityFor config.effectiveBuffer ≤ Stream.maxCapacity := by
    rw [admitted_iff]
    omega
  rw [Service.search_of_not_admitted store request s hnot]

theorem not_servesAll_of_servesNone (h : config.ServesNone) : ¬config.ServesAll := by
  intro hall
  have hsome := hall Catalogue.store {} .empty
  rw [h Catalogue.store {} .empty] at hsome
  cases hsome

theorem servesAll_iff : config.ServesAll ↔ config.streamBuffer ≤ Stream.maxCapacity := by
  constructor
  · intro hall
    rcases Nat.lt_or_ge Stream.maxCapacity config.streamBuffer with hlt | hle
    · exact absurd hall (not_servesAll_of_servesNone config (servesNone_of_lt config hlt))
    · exact hle
  · exact servesAll_of_le config

theorem servesNone_iff : config.ServesNone ↔ Stream.maxCapacity < config.streamBuffer := by
  constructor
  · intro hnone
    rcases Nat.lt_or_ge Stream.maxCapacity config.streamBuffer with hlt | hle
    · exact hlt
    · exact absurd (servesAll_of_le config hle) (not_servesAll_of_servesNone config hnone)
  · exact servesNone_of_lt config

end

end SearchConfig

/-- A configuration stands in some file exactly if its buffer has at most 63 binary digits. No
channel is too small for a search. Up to the largest channel that can be made every search runs,
over every store and whatever the request. With a larger buffer every search is aborted and no store
is asked, though files may configure it. -/
theorem accepted_buffers_serve_up_to_largest_channel (config : SearchConfig) :
    ((∃ state, SearchConfig.load state = .ok config) ↔ config.streamBuffer < Nat.pow 2 63) ∧
    1 ≤ Stream.capacityFor config.effectiveBuffer ∧
    (config.ServesAll ↔ config.streamBuffer ≤ Stream.maxCapacity) ∧
    (config.ServesNone ↔ Stream.maxCapacity < config.streamBuffer) := by
  refine ⟨?_, config.one_le_capacityFor_effectiveBuffer, config.servesAll_iff,
    config.servesNone_iff⟩
  constructor
  · rintro ⟨state, h⟩
    exact SearchConfig.streamBuffer_lt h
  · intro h
    exact ⟨_, SearchConfig.load_bufferDocument h⟩

/-- The buffer one above the largest channel is accepted and serves nothing. -/
theorem accepted_buffer_serves_nothing :
    let text := "[search]\nstream_buffer = 2305843009213693952"
    let config : SearchConfig := { streamBuffer := 2305843009213693952 }
    SearchConfig.load (.file text.toByteArray.data.toList) = .ok config ∧
      ¬Stream.capacityFor config.effectiveBuffer ≤ Stream.maxCapacity ∧
      ∀ request,
        (Service.search Catalogue.store config.effectiveBuffer request .empty).2.1 = none := by
  intro text config
  have htext : bufferDocument 2305843009213693952 = text := by decide
  have hload := SearchConfig.load_bufferDocument (n := 2305843009213693952) (by decide)
  rw [htext] at hload
  have hnone := config.servesNone_of_lt (by decide)
  refine ⟨hload, by decide, ?_⟩
  intro request
  rw [hnone Catalogue.store request .empty]

end LaptopCatalogue
