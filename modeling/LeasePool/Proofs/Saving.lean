import LeasePool.Config.Store
import LeasePool.Proofs.Lines
import LeasePool.Proofs.Spans

/-!
What a saved configuration file gives back when it is loaded. The file is a list of lines, so that
scanning it gives its entries as they were written. Settings whose texts stand for themselves come
back as they are, with the lease timeout in whole milliseconds.
-/
namespace LeasePool

open Text

/-! ### The lines of a saved file -/

namespace Settings

open Config

/-- The lease timeout as it is written. -/
def writtenTimeout (s : Settings) : String := (s.leaseTimeout.map Duration.format).getD "0"

theorem writtenTimeout_of_none {s : Settings} (h : s.leaseTimeout = none) :
    s.writtenTimeout = "0" := by
  rw [writtenTimeout, h, Option.map_none, Option.getD_none]

theorem writtenTimeout_of_some {s : Settings} {d : Duration} (h : s.leaseTimeout = some d) :
    s.writtenTimeout = d.format := by
  rw [writtenTimeout, h, Option.map_some, Option.getD_some]

/-- The lines of a saved file, told apart by what they are. -/
def layout (s : Settings) : List Line :=
  [.heading "pool",
   .comment " Pool key. The coordinator id is \"resource-pool\" + namespace + resource_id",
   .entry "namespace" s.space,
   .entry "resource_id" s.resource,
   .comment " Initial number of slots (at least 1)",
   .entry "size" s.size.repr,
   .comment " Record initializer:",
   .comment "   default - ids like <resource_id>-<index>, no extra metadata",
   .comment "   custom  - ids like <prefix>:<resource_id>-<index>, with metadata below;",
   .comment "             shrinking sheds expanded records first",
   .entry "initializer" s.provisioner.name,
   .comment " Record id prefix (custom initializer only)",
   .entry "prefix" s.label,
   .comment " Metadata recorded on every record (custom initializer only)",
   .entry "purpose" (s.purpose.getD ""),
   .entry "created_by" (s.createdBy.getD ""),
   .blank,
   .heading "lease",
   .comment " Maximum time a grant may be held before it is reclaimed automatically",
   .comment " Supports: ms, s, m, h suffixes (e.g., 30s, 5m, 1h); 0 disables the timeout",
   .entry "timeout" s.writtenTimeout,
   .blank,
   .heading "coordinator",
   .comment " Coordinator inbox capacity (default: 1000)",
   .entry "channel_capacity" s.capacity.repr,
   .blank,
   .heading "logging",
   .comment " Log file path (default: ~/.poolkeeper/poolkeeper.log)",
   .entry "file" s.logFile]

theorem lines_eq (s : Settings) : s.lines = s.layout.map Line.written := by
  simp [lines, layout, Line.written, writtenTimeout]

theorem toList_render (s : Settings) : s.render.toList = textOf s.layout := by
  rw [render, s.lines_eq, String.toList_join, textOf, List.map_map, List.flatMap_map]
  apply List.flatMap_congr
  intro l _
  simp [Line.toList_written]

/-- The headings and entries of a saved file. -/
def document (s : Settings) : Document := s.layout.flatMap Line.items

/-- All texts of the settings stand for themselves. -/
structure Verbatim (s : Settings) : Prop where
  space : Config.Verbatim s.space
  resource : Config.Verbatim s.resource
  label : Config.Verbatim s.label
  purpose : ∀ p ∈ s.purpose, Config.Verbatim p
  createdBy : ∀ p ∈ s.createdBy, Config.Verbatim p
  logFile : Config.Verbatim s.logFile

end Settings

namespace Config

theorem verbatim_of_forall {s : String}
    (h : ∀ c ∈ s.toList, isBlank c = false ∧ c ≠ '\\' ∧ c ≠ '"' ∧ c ≠ '\'') : Verbatim s := by
  refine ⟨tight_of_forall fun c hc => (h c hc).1, ?_, ?_⟩
  · intro c hc
    refine ⟨(h c hc).2.1, ?_, ?_⟩
    · rintro rfl
      exact absurd (h _ hc).1 (by decide)
    · rintro rfl
      exact absurd (h _ hc).1 (by decide)
  · intro c hc
    exact (h c (List.mem_of_mem_head? hc)).2.2

/-- A number stands for itself, also before a text that does. -/
theorem verbatim_repr_append (n : Nat) {t : String}
    (h : ∀ c ∈ t.toList, isBlank c = false ∧ c ≠ '\\' ∧ c ≠ '"' ∧ c ≠ '\'') :
    Verbatim (n.repr ++ t) := by
  apply verbatim_of_forall
  intro c hc
  rw [String.toList_append] at hc
  rcases List.mem_append.mp hc with hc | hc
  · have hdigit : c.isDigit = true := isDigit_of_mem_repr hc
    refine ⟨isBlank_of_isDigit hdigit, ?_, ?_, ?_⟩ <;> rintro rfl <;> cases hdigit
  · exact h c hc

theorem verbatim_repr (n : Nat) : Verbatim n.repr := by
  have hempty := verbatim_repr_append n (t := "") (by simp)
  rwa [String.append_empty] at hempty

theorem verbatim_getD {o : Option String} (h : ∀ s ∈ o, Verbatim s) : Verbatim (o.getD "") := by
  cases o with
  | none => exact verbatim_empty
  | some s => exact h s rfl

end Config

theorem Duration.verbatim_format (d : Duration) : Config.Verbatim d.format := by
  have hsymbol : ∀ unit : Measure, ∀ c ∈ unit.symbol.toList,
      isBlank c = false ∧ c ≠ '\\' ∧ c ≠ '"' ∧ c ≠ '\'' := by
    intro unit
    cases unit <;> decide
  by_cases hzero : d.millisUp = 0
  · rw [format_of_millisUp_eq_zero hzero]
    exact Config.verbatim_repr 0
  · rw [format_of_millisUp_ne_zero hzero]
    exact Config.verbatim_repr_append _ (hsymbol _)

namespace Settings

open Config

theorem verbatim_writtenTimeout (s : Settings) : Config.Verbatim s.writtenTimeout := by
  cases ht : s.leaseTimeout with
  | none =>
    rw [writtenTimeout_of_none ht]
    exact verbatim_repr 0
  | some d =>
    rw [writtenTimeout_of_some ht]
    exact d.verbatim_format

theorem writtenTimeout_ne_empty (s : Settings) : s.writtenTimeout ≠ "" := by
  cases ht : s.leaseTimeout with
  | none =>
    rw [writtenTimeout_of_none ht]
    decide
  | some d =>
    rw [writtenTimeout_of_some ht]
    exact d.format_ne_empty

/-- Every line of a saved file is read as it was meant. -/
theorem Verbatim.legible {s : Settings} (h : s.Verbatim) : ∀ l ∈ s.layout, l.Legible := by
  have hname : Config.Verbatim s.provisioner.name := by
    cases s.provisioner <;> decide
  intro l hl
  simp only [layout, List.mem_cons, List.not_mem_nil, or_false] at hl
  rcases hl with rfl | rfl | rfl | rfl | rfl | rfl | rfl | rfl | rfl | rfl | rfl | rfl | rfl |
    rfl | rfl | rfl | rfl | rfl | rfl | rfl | rfl | rfl | rfl | rfl | rfl | rfl | rfl | rfl | rfl
  -- comments, headings and blank lines are closed; a row that names a fact is an entry
  exacts [
    by decide,
    legible_comment (by decide),
    ⟨by decide, h.space⟩,
    ⟨by decide, h.resource⟩,
    legible_comment (by decide),
    ⟨by decide, verbatim_repr s.size⟩,
    legible_comment (by decide),
    legible_comment (by decide),
    legible_comment (by decide),
    legible_comment (by decide),
    ⟨by decide, hname⟩,
    legible_comment (by decide),
    ⟨by decide, h.label⟩,
    legible_comment (by decide),
    ⟨by decide, verbatim_getD h.purpose⟩,
    ⟨by decide, verbatim_getD h.createdBy⟩,
    by decide,
    by decide,
    legible_comment (by decide),
    legible_comment (by decide),
    ⟨by decide, s.verbatim_writtenTimeout⟩,
    by decide,
    by decide,
    legible_comment (by decide),
    ⟨by decide, verbatim_repr s.capacity⟩,
    by decide,
    by decide,
    legible_comment (by decide),
    ⟨by decide, h.logFile⟩]

/-- Scanning a saved file finds its headings and entries. -/
theorem Verbatim.scan_render {s : Settings} (h : s.Verbatim) :
    Document.scan s.render.toList = .ok s.document := by
  rw [s.toList_render]
  exact scan_lines (by decide) h.legible

/-- The value of each key of a saved file. -/
theorem value?_document (s : Settings) :
    s.document.value? "pool" "namespace" = some s.space ∧
      s.document.value? "pool" "resource_id" = some s.resource ∧
      s.document.value? "pool" "size" = some s.size.repr ∧
      s.document.value? "pool" "initializer" = some s.provisioner.name ∧
      s.document.value? "pool" "prefix" = some s.label ∧
      s.document.value? "pool" "purpose" = some (s.purpose.getD "") ∧
      s.document.value? "pool" "created_by" = some (s.createdBy.getD "") ∧
      s.document.value? "lease" "timeout" = some s.writtenTimeout ∧
      s.document.value? "coordinator" "channel_capacity" = some s.capacity.repr ∧
      s.document.value? "logging" "file" = some s.logFile :=
  ⟨rfl, rfl, rfl, rfl, rfl, rfl, rfl, rfl, rfl, rfl⟩

end Settings

/-! ### Reading the values back -/

namespace Text

theorem trimmed_eq_self_iff (s : String) : trimmed s = s ↔ Tight s.toList := by
  rw [trimmed, ← trim_eq_self_iff, ← String.toList_inj, String.toList_ofList]

theorem nonBlank?_eq_self {s : String} (hne : s ≠ "") (h : Tight s.toList) :
    nonBlank? s = some s := by
  have htrimmed : trimmed s = s := (trimmed_eq_self_iff s).mpr h
  simp [nonBlank?, htrimmed, hne]

end Text

namespace Config

theorem requirePositive_repr {heading key : String} {n : Nat} (hpos : 1 ≤ n) (hmax : n ≤ wordMax) :
    requirePositive heading key n.repr = .ok n := by
  obtain ⟨n, rfl⟩ := Nat.exists_eq_add_of_le' hpos
  simp only [requirePositive, (tight_repr (n + 1)).trim_eq, word?_repr hmax]

theorem requireProvisioner_name {heading key : String} (kind : ProvisionerKind) :
    requireProvisioner heading key kind.name = .ok kind := by
  have hparse : ProvisionerKind.parse kind.name = .ok kind := by
    cases kind <;> rfl
  simp only [requireProvisioner, hparse]

theorem requireTimeout_of_some {heading key s : String} {t : Duration}
    (h : Duration.parse? s.toList = some t) :
    requireTimeout heading key s = .ok (if t.isZero then none else some t) := by
  delta requireTimeout Duration.parse
  simp only [h]

theorem requireTimeout_of_none {heading key s : String} (h : Duration.parse? s.toList = none) :
    requireTimeout heading key s = .error (.invalid heading key s .badTimeout) := by
  delta requireTimeout Duration.parse
  simp only [h]

theorem requireTimeout_zero {heading key : String} : requireTimeout heading key "0" = .ok none := by
  have hparse : Duration.parse? "0".toList = some Duration.zero := by decide
  rw [requireTimeout_of_some hparse]
  rfl

/-- A written timeout comes back in whole milliseconds, as none when there are none. -/
theorem requireTimeout_format {heading key : String} {d : Duration} (h : d.millisUp ≤ wordMax) :
    requireTimeout heading key d.format =
      .ok (if d.nanos = 0 then none else some (.ofMillis d.millisUp h)) := by
  rw [requireTimeout_of_some (Duration.parse?_format_of_le h), Duration.isZero_ofMillis]
  by_cases hzero : d.nanos = 0
  · have hmillis : d.millisUp = 0 := d.millisUp_eq_zero_iff.mpr hzero
    simp [hzero, hmillis]
  · have hmillis : d.millisUp ≠ 0 := fun hmillis => hzero (d.millisUp_eq_zero_iff.mp hmillis)
    simp [hzero, hmillis]

theorem expandHome_eq_self {home path : String} (h : ¬ ['~', '/'] <+: path.toList) :
    expandHome home path = path := by
  unfold expandHome
  split
  · rename_i rest hpath
    rw [hpath] at h
    exact absurd (List.prefix_append ['~', '/'] rest) h
  · rfl

/-- A text as loading gives it: it is not empty, and there is nothing to trim. -/
def Trimmed (s : String) : Prop := s ≠ "" ∧ Text.trimmed s = s

instance (s : String) : Decidable (Trimmed s) := inferInstanceAs (Decidable (_ ∧ _))

/-- A text without escapes, line ends and a quote at its beginning. -/
def Unmarked (s : String) : Prop :=
  (∀ c ∈ s.toList, c ≠ '\\' ∧ c ≠ '\r' ∧ c ≠ '\n') ∧ ∀ c ∈ s.toList.head?, c ≠ '"' ∧ c ≠ '\''

instance (s : String) : Decidable (Unmarked s) := inferInstanceAs (Decidable (_ ∧ _))

/-- A text that a saved file gives back as it is. -/
structure Plain (s : String) : Prop where
  trimmed : Trimmed s
  unmarked : Unmarked s

instance (s : String) : Decidable (Plain s) :=
  decidable_of_iff (_ ∧ _) ⟨fun h => ⟨h.1, h.2⟩, fun h => ⟨h.1, h.2⟩⟩

namespace Plain

variable {s : String}

theorem tight (h : Plain s) : Tight s.toList := (trimmed_eq_self_iff s).mp h.trimmed.2

theorem verbatim (h : Plain s) : Verbatim s := ⟨h.tight, h.unmarked.1, h.unmarked.2⟩

theorem nonBlank? (h : Plain s) : Text.nonBlank? s = some s :=
  nonBlank?_eq_self h.trimmed.1 h.tight

theorem requireText {heading key : String} (h : Plain s) :
    requireText heading key s = .ok s := by
  simp only [Config.requireText, h.nonBlank?]

theorem nonBlank?_getD {o : Option String} (h : ∀ s ∈ o, Plain s) :
    Text.nonBlank? (o.getD "") = o := by
  cases o with
  | none => rfl
  | some s => exact (h s rfl).nonBlank?

end Plain

end Config

namespace Settings

open Config

/-- Settings that a saved file gives back as they are, the lease timeout apart. -/
structure Plain (s : Settings) : Prop where
  space : Config.Plain s.space
  resource : Config.Plain s.resource
  label : Config.Plain s.label
  purpose : ∀ p ∈ s.purpose, Config.Plain p
  createdBy : ∀ p ∈ s.createdBy, Config.Plain p
  logFile : Config.Plain s.logFile
  outsideHome : ¬ ['~', '/'] <+: s.logFile.toList
  size : 1 ≤ s.size ∧ s.size ≤ wordMax
  capacity : 1 ≤ s.capacity ∧ s.capacity ≤ wordMax

theorem Plain.verbatim {s : Settings} (h : s.Plain) : s.Verbatim where
  space := h.space.verbatim
  resource := h.resource.verbatim
  label := h.label.verbatim
  purpose := fun p hp => (h.purpose p hp).verbatim
  createdBy := fun p hp => (h.createdBy p hp).verbatim
  logFile := h.logFile.verbatim

/-- The entries of a saved file give the settings back, with the timeout as it is read. -/
theorem Plain.ofDocument_document {s : Settings} (h : s.Plain) (home : String) :
    ofDocument home s.document =
      (requireTimeout "lease" "timeout" s.writtenTimeout).map
        fun t => { s with leaseTimeout := t } := by
  obtain ⟨hspace, hresource, hsize, hprovisioner, hlabel, hpurpose, hcreatedBy, htimeout,
    hcapacity, hlogFile⟩ := s.value?_document
  have hset : (nonBlank? s.writtenTimeout).isSome = true := by
    rw [nonBlank?_eq_self s.writtenTimeout_ne_empty s.verbatim_writtenTimeout.tight]
    rfl
  simp only [ofDocument, orDefault, nonBlankValue?, hspace, hresource, hsize, hprovisioner, hlabel,
    hpurpose, hcreatedBy, htimeout, hcapacity, hlogFile, h.space.requireText,
    h.resource.requireText, requirePositive_repr h.size.1 h.size.2,
    requirePositive_repr h.capacity.1 h.capacity.2, requireProvisioner_name, Option.bind_some,
    hset, if_true, h.label.nonBlank?, Plain.nonBlank?_getD h.purpose,
    Plain.nonBlank?_getD h.createdBy, h.logFile.nonBlank?, Option.map_some, Option.getD_some,
    expandHome_eq_self h.outsideHome]
  cases requireTimeout "lease" "timeout" s.writtenTimeout <;> rfl

/-- The bytes of a text that begins like a saved file are read as that text. They begin with no byte
order mark. -/
theorem ofBytes_toUTF8 (home rest : String) :
    ofBytes home ("[po" ++ rest).toUTF8 = parse home ("[po" ++ rest) := by
  have hbytes : ("[po" ++ rest).toUTF8 = "[po".toByteArray ++ rest.toByteArray := by
    rw [String.toUTF8_eq_toByteArray, String.toByteArray_append]
  have hfirst : (("[po" ++ rest).toUTF8.extract 0 3).toList = [0x5b, 0x70, 0x6f] := by
    have hsize : 3 = "[po".toByteArray.size := by decide
    rw [hbytes, ByteArray.extract_append_eq_left hsize]
    decide +kernel
  have hmark : (("[po" ++ rest).toUTF8.extract 0 3).toList ≠ [0xef, 0xbb, 0xbf] := by
    rw [hfirst]
    decide
  have htext : String.fromUTF8? ("[po" ++ rest).toUTF8 = some ("[po" ++ rest) :=
    dif_pos ("[po" ++ rest).isValidUTF8
  simp only [ofBytes, hmark, if_false, htext]

theorem exists_render_eq (s : Settings) : ∃ rest, s.render = "[po" ++ rest := by
  obtain ⟨rest, hrest⟩ : ∃ rest, textOf s.layout = '[' :: 'p' :: 'o' :: rest := by
    rw [layout, textOf_cons]
    exact ⟨_, rfl⟩
  refine ⟨String.ofList rest, ?_⟩
  rw [← String.toList_inj, s.toList_render, hrest]
  simp

/-- The bytes of a saved file give the settings back. -/
theorem Plain.ofBytes_render {s : Settings} (h : s.Plain) (home : String) :
    ofBytes home s.render.toUTF8 =
      (requireTimeout "lease" "timeout" s.writtenTimeout).map
        fun t => { s with leaseTimeout := t } := by
  obtain ⟨rest, hrest⟩ := s.exists_render_eq
  have hparse : ofBytes home s.render.toUTF8 = parse home s.render := by
    rw [hrest]
    exact ofBytes_toUTF8 home rest
  simp only [hparse, parse, h.verbatim.scan_render, h.ofDocument_document home]

end Settings

/-! ### Saving and loading -/

namespace Config.Store

/-- The configuration file can be written. -/
def Writable (store : Store) : Prop := store ≠ .blocked ∧ store ≠ .present .directory

theorem Writable.save_eq {store : Store} (h : store.Writable) (s : Settings) :
    store.save s = .ok (.present (.file s.render.toUTF8)) := by
  obtain ⟨hblocked, hdirectory⟩ := h
  cases store with
  | absent => rfl
  | blocked => exact absurd rfl hblocked
  | present file =>
    cases file with
    | absent => rfl
    | file bytes => rfl
    | directory => exact absurd rfl hdirectory

/-- Loading a saved file reads the timeout that was written and gives everything else back. -/
theorem load_render {s : Settings} (h : s.Plain) (home : String) {t : Option Duration}
    (ht : requireTimeout "lease" "timeout" s.writtenTimeout = .ok t) :
    (present (.file s.render.toUTF8)).load home = .ok { s with leaseTimeout := t } := by
  have hbytes := h.ofBytes_render home
  rw [ht] at hbytes
  simp only [load, fileState, hbytes, Except.map]

theorem load_render_error {s : Settings} (h : s.Plain) (home : String) {e : TextError}
    (he : requireTimeout "lease" "timeout" s.writtenTimeout = .error e) :
    (present (.file s.render.toUTF8)).load home = .error (.text e) := by
  have hbytes := h.ofBytes_render home
  rw [he] at hbytes
  simp only [load, fileState, hbytes, Except.map]

/-- Saving plain settings and loading them gives the same settings with the lease timeout rounded up
to whole milliseconds, where only zero turns into none. A timeout whose milliseconds do not fit in
a 64-bit word is refused. -/
theorem load_save_plain {store : Store} (hstore : store.Writable) {s : Settings} (h : s.Plain)
    (home : String) :
    ∃ after, store.save s = .ok after ∧
      match s.leaseTimeout with
      | none => after.load home = .ok s
      | some d =>
        (d.nanos = 0 → after.load home = .ok { s with leaseTimeout := none }) ∧
        (∀ hfit : d.millisUp ≤ wordMax, 0 < d.nanos → after.load home =
          .ok { s with leaseTimeout := some (.ofMillis d.millisUp hfit) }) ∧
        (wordMax < d.millisUp → after.load home =
          .error (.text (.invalid "lease" "timeout" d.format .badTimeout))) := by
  refine ⟨_, hstore.save_eq s, ?_⟩
  cases ht : s.leaseTimeout with
  | none =>
    have hread : requireTimeout "lease" "timeout" s.writtenTimeout = .ok none := by
      rw [Settings.writtenTimeout_of_none ht]
      exact requireTimeout_zero
    have hload := load_render h home hread
    rwa [← ht] at hload
  | some d =>
    have hwritten := Settings.writtenTimeout_of_some ht
    refine ⟨?_, ?_, ?_⟩
    · intro hzero
      have hmillis : d.millisUp = 0 := d.millisUp_eq_zero_iff.mpr hzero
      have hfit : d.millisUp ≤ wordMax := by
        rw [hmillis]
        exact Nat.zero_le wordMax
      apply load_render h home
      rw [hwritten, requireTimeout_format hfit, if_pos hzero]
    · intro hfit hpos
      apply load_render h home
      rw [hwritten, requireTimeout_format hfit, if_neg (Nat.ne_of_gt hpos)]
    · intro hlong
      apply load_render_error h home
      rw [hwritten]
      exact requireTimeout_of_none (Duration.parse?_format_of_lt hlong)

/-- Settings whose texts hold the marks of the file format where they mean nothing. -/
def markedSettings : Settings where
  space := "a=b; c#[d]:\"e' \u3000é"
  resource := "[pool]"
  size := wordMax
  provisioner := .custom
  label := ";x"
  purpose := some "size = 0"
  createdBy := none
  leaseTimeout := some ⟨1500001, by decide⟩
  capacity := 1
  logFile := "~ /\"log\".txt"

theorem load_save_plain_marked :
    Store.absent.Writable ∧ markedSettings.Plain ∧
      ∃ after, Store.absent.save markedSettings = .ok after ∧ after.load "/home/ann" =
        .ok { markedSettings with leaseTimeout := some (.ofMillis 2 (by decide)) } := by
  have hstore : Store.absent.Writable := ⟨nofun, nofun⟩
  have hplain : markedSettings.Plain := by
    constructor <;> decide
  obtain ⟨after, hsave, -, hround, -⟩ := load_save_plain hstore hplain "/home/ann"
  exact ⟨hstore, hplain, after, hsave, hround (by decide) (by decide)⟩

end Config.Store

end LeasePool
