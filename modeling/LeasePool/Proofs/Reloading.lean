import LeasePool.Proofs.Loading

/-!
Whether loading is stable under saving. What was loaded is trimmed and in range, so that it comes
back after saving when none of its texts holds a backslash, a line end or a quote at its beginning.
The reader decodes quotes and escapes while the writer writes none, and so a text with one of these
marks is written as something else: a line end in it begins a line of its own.
-/
namespace LeasePool

open Text

/-! ### Paths below the home directory -/

namespace Path

theorem head?_join {directory : String} (h : directory.toList.head? = some '/') (path : String) :
    (join directory path).toList.head? = some '/' := by
  have hne : directory.toList ≠ [] := by
    intro hnil
    rw [hnil] at h
    cases h
  unfold join
  split
  · rename_i habsolute
    obtain ⟨rest, hrest⟩ := String.startsWith_string_iff.mp habsolute
    rw [← hrest]
    rfl
  · split
    · rwa [String.toList_append, List.head?_append_of_ne_nil _ hne]
    · rwa [String.toList_append, String.toList_append, List.append_assoc,
        List.head?_append_of_ne_nil _ hne]

/-- A path below a directory ends as the path does, or in a slash. -/
theorem getLast?_join {directory : String} (hne : directory ≠ "") (path : String) :
    (join directory path).toList.getLast? = path.toList.getLast? ∨
      (join directory path).toList.getLast? = some '/' := by
  unfold join
  split
  · exact .inl rfl
  · by_cases hpath : path.toList = []
    · right
      split
      · rename_i hends
        have hslash : directory.toSlice.endsWith "/" := hends.resolve_left hne
        obtain ⟨rest, hrest⟩ := String.Slice.endsWith_string_iff.mp hslash
        rw [String.copy_toSlice] at hrest
        rw [String.toList_append, hpath, List.append_nil, ← hrest]
        exact List.getLast?_concat
      · rw [String.toList_append, hpath, List.append_nil, String.toList_append]
        exact List.getLast?_concat
    · left
      split
      · rw [String.toList_append, List.getLast?_append_of_ne_nil _ hpath]
      · rw [String.toList_append, List.getLast?_append_of_ne_nil _ hpath]

theorem tight_join {directory path : String} (h : directory.toList.head? = some '/')
    (hlast : ∀ c ∈ path.toList.getLast?, isBlank c = false) :
    Tight (join directory path).toList := by
  have hne : directory ≠ "" := by
    rintro rfl
    cases h
  constructor
  · intro c hc
    rw [head?_join h path] at hc
    cases hc
    decide
  · intro c hc
    rcases getLast?_join hne path with hsame | hslash
    · rw [hsame] at hc
      exact hlast c hc
    · rw [hslash] at hc
      cases hc
      decide

end Path

/-! ### What was loaded -/

namespace Config

theorem trimmed_join {directory path : String} (h : directory.toList.head? = some '/')
    (hlast : ∀ c ∈ path.toList.getLast?, isBlank c = false) :
    Trimmed (Path.join directory path) := by
  refine ⟨?_, (trimmed_eq_self_iff _).mpr (Path.tight_join h hlast)⟩
  intro hempty
  have hhead := Path.head?_join h path
  rw [hempty] at hhead
  cases hhead

theorem not_homePrefix_of_head? {s : String} (h : s.toList.head? = some '/') :
    ¬ ['~', '/'] <+: s.toList := by
  rintro ⟨rest, hrest⟩
  rw [← hrest] at h
  exact absurd h (by simp)

/-- A path with the home directory put in is trimmed and does not name the home directory again. -/
theorem trimmed_expandHome {home path : String} (hhome : home.toList.head? = some '/')
    (hpath : Trimmed path) :
    Trimmed (expandHome home path) ∧ ¬ ['~', '/'] <+: (expandHome home path).toList := by
  unfold expandHome
  split
  · rename_i rest hrest
    refine ⟨trimmed_join hhome ?_, not_homePrefix_of_head? (Path.head?_join hhome _)⟩
    intro c hc
    rw [String.toList_ofList] at hc
    have htight : Tight path.toList := (trimmed_eq_self_iff path).mp hpath.2
    apply htight.2 c
    rw [hrest, List.getLast?_cons_cons, List.getLast?_cons, hc]
    rfl
  · rename_i hplain
    refine ⟨hpath, ?_⟩
    rintro ⟨rest, hrest⟩
    exact hplain rest hrest.symm

end Config

namespace Settings

open Config

/-- Settings as loading gives them. -/
structure Loaded (s : Settings) : Prop where
  space : Trimmed s.space
  resource : Trimmed s.resource
  label : Trimmed s.label
  purpose : ∀ p ∈ s.purpose, Trimmed p
  createdBy : ∀ p ∈ s.createdBy, Trimmed p
  logFile : Trimmed s.logFile
  outsideHome : ¬ ['~', '/'] <+: s.logFile.toList
  size : 1 ≤ s.size ∧ s.size ≤ wordMax
  capacity : 1 ≤ s.capacity ∧ s.capacity ≤ wordMax
  leaseTimeout : WholeTimeout s.leaseTimeout

theorem trimmed_logFile_default {home : String} (hhome : home.toList.head? = some '/') :
    Trimmed (Settings.default home).logFile ∧
      ¬ ['~', '/'] <+: (Settings.default home).logFile.toList := by
  have hdirectory : (directoryIn home).toList.head? = some '/' := Path.head?_join hhome _
  have hhead := not_homePrefix_of_head? (Path.head?_join hdirectory logFileName)
  exact ⟨trimmed_join hdirectory (by decide), hhead⟩

theorem loaded_of_ofDocument {home : String} (hhome : home.toList.head? = some '/')
    {doc : Document} {s : Settings} (h : ofDocument home doc = .ok s) : s.Loaded := by
  obtain ⟨hreflects, husable⟩ := reflects_of_ofDocument h
  have hlogFile : Trimmed s.logFile ∧ ¬ ['~', '/'] <+: s.logFile.toList := by
    apply hreflects.logFile.elim_unlessBlank
      (P := fun f => Trimmed f ∧ ¬ ['~', '/'] <+: f.toList) (trimmed_logFile_default hhome)
    intro v hblank ha
    rw [ha]
    exact trimmed_expandHome hhome (trimmed_of_not_blank hblank)
  exact {
    space := husable.space
    resource := husable.resource
    label := husable.label
    purpose := husable.purpose
    createdBy := husable.createdBy
    logFile := hlogFile.1
    outsideHome := hlogFile.2
    size := husable.size
    capacity := husable.capacity
    leaseTimeout := husable.leaseTimeout }

/-- The defaults are the settings of an empty document. -/
theorem ofDocument_nil (home : String) : ofDocument home [] = .ok (Settings.default home) := rfl

theorem loaded_default {home : String} (hhome : home.toList.head? = some '/') :
    (Settings.default home).Loaded :=
  loaded_of_ofDocument hhome (ofDocument_nil home)

/-- No text of the settings holds a mark of the file format. -/
structure Unmarked (s : Settings) : Prop where
  space : Config.Unmarked s.space
  resource : Config.Unmarked s.resource
  label : Config.Unmarked s.label
  purpose : ∀ p ∈ s.purpose, Config.Unmarked p
  createdBy : ∀ p ∈ s.createdBy, Config.Unmarked p
  logFile : Config.Unmarked s.logFile

theorem Loaded.plain {s : Settings} (h : s.Loaded) (hmarks : s.Unmarked) : s.Plain where
  space := ⟨h.space, hmarks.space⟩
  resource := ⟨h.resource, hmarks.resource⟩
  label := ⟨h.label, hmarks.label⟩
  purpose := fun p hp => ⟨h.purpose p hp, hmarks.purpose p hp⟩
  createdBy := fun p hp => ⟨h.createdBy p hp, hmarks.createdBy p hp⟩
  logFile := ⟨h.logFile, hmarks.logFile⟩
  outsideHome := h.outsideHome
  size := h.size
  capacity := h.capacity

/-- A timeout that was loaded is written and read without a change. -/
theorem Loaded.requireTimeout_writtenTimeout {s : Settings} (h : s.Loaded)
    {heading key : String} :
    requireTimeout heading key s.writtenTimeout = .ok s.leaseTimeout := by
  cases ht : s.leaseTimeout with
  | none =>
    rw [writtenTimeout_of_none ht]
    exact requireTimeout_zero
  | some d =>
    obtain ⟨n, hn, hpos, hd⟩ := h.leaseTimeout d ht
    have hmillis : d.millisUp = n := by rw [hd, Duration.millisUp_ofMillis]
    have hfit : d.millisUp ≤ wordMax := by rwa [hmillis]
    have hnanos : d.nanos ≠ 0 := by
      rw [Ne, ← d.millisUp_eq_zero_iff, hmillis]
      exact Nat.ne_of_gt hpos
    rw [writtenTimeout_of_some ht, requireTimeout_format hfit, if_neg hnanos]
    subst hmillis
    rw [← hd]

theorem loaded_of_ofBytes {home : String} (hhome : home.toList.head? = some '/')
    {bytes : ByteArray} {s : Settings} (h : ofBytes home bytes = .ok s) : s.Loaded := by
  unfold ofBytes at h
  dsimp only at h
  split at h
  · unfold parse at h
    split at h
    · exact loaded_of_ofDocument hhome h
    · cases h
  · cases h

end Settings

namespace Config.Store

theorem loaded_of_load {home : String} (hhome : home.toList.head? = some '/') {store : Store}
    {s : Settings} (h : store.load home = .ok s) : s.Loaded := by
  unfold load at h
  split at h
  · cases h
    exact Settings.loaded_default hhome
  · cases h
  · split at h
    · rename_i hbytes
      cases h
      exact Settings.loaded_of_ofBytes hhome hbytes
    · cases h

/-- What was loaded comes back unchanged after saving, as long as its texts hold no escapes, line
ends and quotes at their beginning. -/
theorem load_save_load {home : String} (hhome : home.toList.head? = some '/') {store : Store}
    (hstore : store.Writable) {s : Settings} (h : store.load home = .ok s) (hmarks : s.Unmarked) :
    ∃ after, store.save s = .ok after ∧ after.load home = .ok s := by
  have hloaded := loaded_of_load hhome h
  have hreload := load_render (hloaded.plain hmarks) home hloaded.requireTimeout_writtenTimeout
  exact ⟨_, hstore.save_eq s, hreload⟩

theorem load_of_scan (doc : Document) {home rest : String} {s : Settings}
    (hscan : Document.scan ("[po" ++ rest).toList = .ok doc)
    (hdoc : Settings.ofDocument home doc = .ok s) :
    (present (.file ("[po" ++ rest).toUTF8)).load home = .ok s := by
  have hbytes : Settings.ofBytes home ("[po" ++ rest).toUTF8 = .ok s := by
    rw [Settings.ofBytes_toUTF8, Settings.parse, hscan]
    exact hdoc
  simp only [load, fileState, hbytes]

/-- A file with a quoted value and a character given by its code. -/
def quotedFile : String := "[po" ++ "ol]\nnamespace = \"team; a\" # b\nprefix = \\x0041\n"

/-- The settings that the file holds. -/
def quotedSettings : Settings :=
  { Settings.default "/home/ann" with space := "team; a # b", label := "A" }

theorem load_save_load_quoted :
    (present (.file quotedFile.toUTF8)).load "/home/ann" = .ok quotedSettings ∧
      ∃ after, (present (.file quotedFile.toUTF8)).save quotedSettings = .ok after ∧
        after.load "/home/ann" = .ok quotedSettings := by
  have hload : (present (.file quotedFile.toUTF8)).load "/home/ann" = .ok quotedSettings :=
    load_of_scan [.heading "pool", .entry "namespace" "team; a # b", .entry "prefix" "A"]
      (by decide +kernel) (by decide +kernel)
  have hstore : (present (.file quotedFile.toUTF8)).Writable := ⟨nofun, nofun⟩
  have hmarks : quotedSettings.Unmarked := by
    constructor <;> decide +kernel
  exact ⟨hload, load_save_load (by decide) hstore hload hmarks⟩

end Config.Store

/-! ### Line ends in values -/

namespace Config

/-- A line end in a value begins a line of its own, which is read as any other. -/
theorem textOf_entry_append (key a : String) (l : Line) (ls : List Line) :
    textOf (.entry key (a ++ "\n" ++ l.written) :: ls) = textOf (.entry key a :: l :: ls) := by
  simp [Line.toList_written, Line.text]

end Config

namespace Settings

open Config

/-- Settings whose namespace goes on with a line for a resource id. -/
def spilled (s : Settings) (resource : String) : Settings :=
  { s with space := s.space ++ "\n" ++ (Line.entry "resource_id" s.resource).written, resource }

/-- The lines of a file saved for them, the one in the namespace included. -/
def spilledLayout (s : Settings) (resource : String) : List Line :=
  s.layout.take 2 ++ .entry "namespace" s.space :: .entry "resource_id" s.resource ::
    .entry "resource_id" resource :: s.layout.drop 4

theorem textOf_layout_spilled (s : Settings) (resource : String) :
    textOf (s.spilled resource).layout = textOf (s.spilledLayout resource) := by
  have hlayout : (s.spilled resource).layout = s.layout.take 2 ++
      .entry "namespace" (s.space ++ "\n" ++ (Line.entry "resource_id" s.resource).written) ::
        .entry "resource_id" resource :: s.layout.drop 4 := rfl
  rw [hlayout, spilledLayout, textOf_append, textOf_append, textOf_entry_append]

theorem Verbatim.legible_spilled {s : Settings} (h : s.Verbatim) {resource : String}
    (hresource : Config.Verbatim resource) : ∀ l ∈ s.spilledLayout resource, l.Legible := by
  have hlines := h.legible
  intro l hl
  rcases List.mem_append.mp hl with hl | hl
  · exact hlines l (List.mem_of_mem_take hl)
  · simp only [List.mem_cons] at hl
    rcases hl with rfl | rfl | rfl | hl
    · exact ⟨by decide, h.space⟩
    · exact ⟨by decide, h.resource⟩
    · exact ⟨by decide, hresource⟩
    · exact hlines l (List.mem_of_mem_drop hl)

/-- The first entry of a key counts, so that the values are those of the settings. -/
theorem value?_spilledLayout (s : Settings) (resource heading key : String) :
    Document.value? ((s.spilledLayout resource).flatMap Line.items) heading key =
      s.document.value? heading key := by
  have hrest : (s.spilledLayout resource).flatMap Line.items =
      .heading "pool" :: .entry "namespace" s.space :: .entry "resource_id" s.resource ::
        .entry "resource_id" resource :: s.document.drop 3 := rfl
  have hdocument : s.document = .heading "pool" :: .entry "namespace" s.space ::
      .entry "resource_id" s.resource :: s.document.drop 3 := rfl
  rw [hrest, hdocument]
  by_cases hpool : "pool" = heading
  · by_cases hkey : "resource_id" = key
    · simp [Document.value?, Document.section?, Document.section?.entries, hpool, hkey,
        List.find?_cons]
    · simp [Document.value?, Document.section?, Document.section?.entries, hpool, hkey,
        List.find?_cons]
  · simp [Document.value?, Document.section?, hpool]

/-- The settings of a document depend on the values of its keys only. -/
theorem ofDocument_congr {home : String} {doc doc' : Document}
    (h : ∀ heading key, doc.value? heading key = doc'.value? heading key) :
    ofDocument home doc = ofDocument home doc' := by
  have hvalue : ∀ heading key,
      nonBlankValue? doc heading key = nonBlankValue? doc' heading key := by
    intro heading key
    rw [nonBlankValue?, h, nonBlankValue?]
  have hread {α : Type} (heading key : String) (d : α)
      (read : String → String → String → Except TextError α) :
      orDefault doc heading key d read = orDefault doc' heading key d read := by
    unfold orDefault
    rw [h]
  simp only [ofDocument, hvalue, hread]

/-- The rest of the namespace is read as the resource id, which is not read itself. -/
theorem Plain.parse_spilled {s : Settings} (h : s.Plain) {resource : String}
    (hresource : Config.Verbatim resource) (home : String) :
    parse home (s.spilled resource).render =
      (requireTimeout "lease" "timeout" s.writtenTimeout).map
        fun t => { s with leaseTimeout := t } := by
  have hscan : Document.scan (s.spilled resource).render.toList =
      .ok ((s.spilledLayout resource).flatMap Line.items) := by
    rw [toList_render, textOf_layout_spilled]
    exact scan_lines (by decide) (h.verbatim.legible_spilled hresource)
  rw [parse, hscan]
  show ofDocument home ((s.spilledLayout resource).flatMap Line.items) = _
  rw [ofDocument_congr (s.value?_spilledLayout resource), h.ofDocument_document home]

end Settings

namespace Config.Store

theorem load_render_spilled {s : Settings} (h : s.Plain) {resource : String}
    (hresource : Verbatim resource) (home : String) {t : Option Duration}
    (ht : requireTimeout "lease" "timeout" s.writtenTimeout = .ok t) :
    (present (.file (s.spilled resource).render.toUTF8)).load home =
      .ok { s with leaseTimeout := t } := by
  obtain ⟨rest, hrest⟩ := (s.spilled resource).exists_render_eq
  have hparse := h.parse_spilled hresource home
  rw [ht, hrest] at hparse
  have hbytes : Settings.ofBytes home (s.spilled resource).render.toUTF8 =
      .ok { s with leaseTimeout := t } := by
    rw [hrest, Settings.ofBytes_toUTF8, hparse]
    rfl
  simp only [load, fileState, hbytes]

/-- A file whose namespace holds a line end as an escape. -/
def brokenFile : String := "[po" ++ "ol]\nnamespace = a\\nresource_id = gpu\n"

/-- The settings that are loaded after the settings of the file have been saved. -/
def mendedSettings : Settings :=
  { Settings.default "/home/ann" with space := "a", resource := "gpu" }

/-- The settings of the file. -/
def brokenSettings : Settings := mendedSettings.spilled Settings.defaultResource

/-- One escape is enough for other settings than those that were loaded and saved. -/
theorem load_save_load_broken :
    (present (.file brokenFile.toUTF8)).load "/home/ann" = .ok brokenSettings ∧
      ∃ after, (present (.file brokenFile.toUTF8)).save brokenSettings = .ok after ∧
        after.load "/home/ann" = .ok mendedSettings ∧ mendedSettings ≠ brokenSettings := by
  have hload : (present (.file brokenFile.toUTF8)).load "/home/ann" = .ok brokenSettings :=
    load_of_scan [.heading "pool", .entry "namespace" "a\nresource_id = gpu"]
      (by decide +kernel) (by decide +kernel)
  have hstore : (present (.file brokenFile.toUTF8)).Writable := ⟨nofun, nofun⟩
  have hplain : mendedSettings.Plain := by
    constructor <;> decide +kernel
  refine ⟨hload, _, hstore.save_eq brokenSettings, ?_, by decide +kernel⟩
  have hresource : Verbatim Settings.defaultResource := by decide
  have hreload := load_render_spilled hplain hresource "/home/ann" (t := none) requireTimeout_zero
  exact hreload

end Config.Store

end LeasePool
