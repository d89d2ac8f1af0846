import LeasePool.Proofs.Leases
import LeasePool.Proofs.Saving

/-!
Which documents can be loaded, and what they say. The checks on the values of a document stand in a
list, and each setting is tied to the value of its key: loading gives these settings when every
check passes, and reports the first one that does not pass otherwise. Settings that were loaded can
be used: pools start with them, if the slots and the inbox can be held. The checks do not look at
that, and there are documents that pass them and give settings with which no pool starts.
-/
namespace LeasePool

open Text

namespace Config

/-! ### Checks -/

/-- A text with nothing but blanks. -/
def Blank (v : String) : Prop := trim v.toList = []

/-- What the value of a key must be when there is one, and what is reported when it is not. -/
structure Check where
  heading : String
  key : String
  refusal : Refusal
  Accepts : String → Prop

namespace Check

def text (key : String) : Check := ⟨"pool", key, .blank, fun v => ¬ Blank v⟩

def count (heading key : String) : Check :=
  ⟨heading, key, .notPositive, fun v => ∃ n, Numeral (trim v.toList) n ∧ 1 ≤ n ∧ n ≤ wordMax⟩

def provisioner : Check :=
  ⟨"pool", "initializer", .unknownProvisioner,
    fun v => lowered (trimmed v) = "default" ∨ lowered (trimmed v) = "custom"⟩

def timeout : Check :=
  ⟨"lease", "timeout", .badTimeout, fun v => ¬ Blank v → ∃ d, Duration.parse v = .ok d⟩

/-- An absent key passes. -/
def Passes (k : Check) (doc : Document) : Prop :=
  ∀ v, doc.value? k.heading k.key = some v → k.Accepts v

theorem passes_of_none {k : Check} {doc : Document} (hv : doc.value? k.heading k.key = none) :
    k.Passes doc := by
  intro v hv'
  rw [hv] at hv'
  cases hv'

theorem passes_of_some {k : Check} {doc : Document} {v : String}
    (hv : doc.value? k.heading k.key = some v) (h : k.Accepts v) : k.Passes doc := by
  intro v' hv'
  rw [hv] at hv'
  cases hv'
  exact h

end Check

/-- The checks on a document, in the order in which they are made. -/
def checks : List Check :=
  [.text "namespace", .text "resource_id", .count "pool" "size", .provisioner, .timeout,
    .count "coordinator" "channel_capacity"]

/-- The error for the first check of a list that a document does not pass. -/
inductive Refused (doc : Document) : List Check → TextError → Prop where
  | here {k : Check} {ks : List Check} {v : String} (hv : doc.value? k.heading k.key = some v)
      (hbad : ¬ k.Accepts v) : Refused doc (k :: ks) (.invalid k.heading k.key v k.refusal)
  | later {k : Check} {ks : List Check} {e : TextError} (hpass : k.Passes doc)
      (hrest : Refused doc ks e) : Refused doc (k :: ks) e

theorem Refused.unique {doc : Document} {ks : List Check} {e e' : TextError}
    (h : Refused doc ks e) (h' : Refused doc ks e') : e = e' := by
  induction h with
  | here hv hbad =>
    cases h' with
    | here hv' _ =>
      rw [hv] at hv'
      cases hv'
      rfl
    | later hpass _ => exact absurd (hpass _ hv) hbad
  | later hpass _ ih =>
    cases h' with
    | here hv hbad => exact absurd (hpass _ hv) hbad
    | later _ hrest => exact ih hrest

/-! ### Settings and values -/

/-- A setting is what the value of its key says, or the default when the key is absent. -/
def Chosen {α : Type} (doc : Document) (heading key : String) (d : α) (Says : String → α → Prop)
    (a : α) : Prop :=
  match doc.value? heading key with
  | some v => Says v a
  | none => a = d

/-- A text counts without the blanks around it. -/
def SaysText (v a : String) : Prop := a = trimmed v

def SaysNumber (v : String) (n : Nat) : Prop := Numeral (trim v.toList) n

def SaysProvisioner (v : String) (kind : ProvisionerKind) : Prop :=
  lowered (trimmed v) = kind.name

/-- A timeout of zero is none. -/
def SaysTimeout (v : String) (t : Option Duration) : Prop :=
  ∃ d, Duration.parse v = .ok d ∧ t = if d.isZero then none else some d

/-- A blank value says the same as no value. -/
def UnlessBlank {α : Type} (d : α) (Says : String → α → Prop) (v : String) (a : α) : Prop :=
  (Blank v ∧ a = d) ∨ (¬ Blank v ∧ Says v a)

variable {α β : Type} {doc : Document} {heading key : String} {d a : α}
  {Says : String → α → Prop}

theorem chosen_of_some {v : String} (hv : doc.value? heading key = some v) (h : Says v a) :
    Chosen doc heading key d Says a := by
  unfold Chosen
  rwa [hv]

theorem chosen_of_none (hv : doc.value? heading key = none) :
    Chosen doc heading key d Says d := by
  unfold Chosen
  rw [hv]

theorem Chosen.elim {P : α → Prop} (h : Chosen doc heading key d Says a) (hdefault : P d)
    (hvalue : ∀ v, doc.value? heading key = some v → Says v a → P a) : P a := by
  unfold Chosen at h
  cases hv : doc.value? heading key with
  | none =>
    rw [hv] at h
    rwa [h]
  | some v =>
    rw [hv] at h
    exact hvalue v hv h

/-- The same for a setting whose blank values are passed over. -/
theorem Chosen.elim_unlessBlank {P : α → Prop}
    (h : Chosen doc heading key d (UnlessBlank d Says) a) (hdefault : P d)
    (hvalue : ∀ v, ¬ Blank v → Says v a → P a) : P a := by
  apply h.elim hdefault
  intro v hv hread
  rcases hread with ⟨-, ha⟩ | ⟨hblank, ha⟩
  · rwa [ha]
  · exact hvalue v hblank ha

theorem nonBlank?_of_blank {v : String} (h : Blank v) : nonBlank? v = none := by
  have hlist : trim v.toList = [] := h
  simp [nonBlank?, trimmed, hlist]

theorem nonBlank?_of_not_blank {v : String} (h : ¬ Blank v) : nonBlank? v = some (trimmed v) := by
  have hlist : trim v.toList ≠ [] := h
  simp [nonBlank?, trimmed, hlist]

/-- A setting whose blank values are passed over. -/
theorem chosen_nonBlankValue? (f : String → α) :
    Chosen doc heading key d (UnlessBlank d fun v a => a = f (trimmed v))
      (((nonBlankValue? doc heading key).map f).getD d) := by
  unfold nonBlankValue?
  cases hv : doc.value? heading key with
  | none => exact chosen_of_none hv
  | some v =>
    apply chosen_of_some hv
    rw [Option.bind_some]
    by_cases hblank : Blank v
    · rw [nonBlank?_of_blank hblank]
      exact .inl ⟨hblank, rfl⟩
    · rw [nonBlank?_of_not_blank hblank]
      exact .inr ⟨hblank, rfl⟩

/-- An optional text. -/
theorem chosen_text :
    Chosen doc heading key none (UnlessBlank none fun v a => a = some (trimmed v))
      (nonBlankValue? doc heading key) := by
  have h : Chosen doc heading key none (UnlessBlank none fun v a => a = some (trimmed v))
      (((nonBlankValue? doc heading key).map some).getD none) := chosen_nonBlankValue? some
  cases hv : nonBlankValue? doc heading key with
  | none =>
    rw [hv] at h
    exact h
  | some v =>
    rw [hv] at h
    exact h

/-! ### Values that were accepted -/

theorem trimmed_of_not_blank {v : String} (h : ¬ Blank v) : Trimmed (trimmed v) := by
  have hne : trimmed v ≠ "" := by
    intro hempty
    apply h
    show trim v.toList = []
    rw [← toList_trimmed, hempty]
    rfl
  exact ⟨hne, (trimmed_eq_self_iff _).mpr (by simpa using tight_trim v.toList)⟩

theorem Chosen.trimmed {d a : String} (h : Chosen doc "pool" key d SaysText a) (hd : Trimmed d)
    (hpass : (Check.text key).Passes doc) : Trimmed a := by
  apply h.elim hd
  intro v hv ha
  rw [show a = Text.trimmed v from ha]
  exact trimmed_of_not_blank (hpass v hv)

theorem Chosen.positive {d n : Nat} (h : Chosen doc heading key d SaysNumber n)
    (hd : 1 ≤ d ∧ d ≤ wordMax) (hpass : (Check.count heading key).Passes doc) :
    1 ≤ n ∧ n ≤ wordMax := by
  apply h.elim hd
  intro v hv hn
  obtain ⟨m, hm, hbounds⟩ := hpass v hv
  rw [Numeral.unique hn hm]
  exact hbounds

theorem Chosen.trimmed_unlessBlank {d a : String}
    (h : Chosen doc heading key d (UnlessBlank d SaysText) a) (hd : Trimmed d) : Trimmed a := by
  apply h.elim_unlessBlank hd
  intro v hblank ha
  rw [show a = Text.trimmed v from ha]
  exact trimmed_of_not_blank hblank

theorem Chosen.text {a : Option String}
    (h : Chosen doc heading key none (UnlessBlank none fun v a => a = some (Text.trimmed v)) a) :
    ∀ p ∈ a, Trimmed p := by
  apply h.elim_unlessBlank
  · intro p hp
    cases hp
  · intro v hblank ha p hp
    rw [ha] at hp
    cases hp
    exact trimmed_of_not_blank hblank

/-- A timeout as loading gives it: whole milliseconds, and not zero. -/
def WholeTimeout (t : Option Duration) : Prop :=
  ∀ d ∈ t, ∃ n, ∃ h : n ≤ wordMax, 0 < n ∧ d = .ofMillis n h

theorem wholeTimeout_of_saysTimeout {v : String} {t : Option Duration} (h : SaysTimeout v t) :
    WholeTimeout t := by
  obtain ⟨d, hparse, rfl⟩ := h
  obtain ⟨n, hn, rfl⟩ := Duration.exists_eq_ofMillis (Duration.parse_eq_ok_iff.mp hparse)
  rw [Duration.isZero_ofMillis]
  intro d' hd'
  by_cases hzero : n = 0
  · simp [hzero] at hd'
  · simp only [beq_iff_eq, hzero, if_false, Option.mem_some_iff] at hd'
    exact ⟨n, hn, Nat.pos_of_ne_zero hzero, hd'.symm⟩

theorem Chosen.wholeTimeout {t : Option Duration}
    (h : Chosen doc heading key none (UnlessBlank none SaysTimeout) t) : WholeTimeout t := by
  apply h.elim_unlessBlank
  · intro d hd
    cases hd
  · intro v _ ht
    exact wholeTimeout_of_saysTimeout ht

/-! ### Readers -/

/-- A reader makes a check, and gives what an accepted value says. -/
structure Check.MadeBy (k : Check) (read : String → String → String → Except TextError α)
    (Says : String → α → Prop) : Prop where
  accepted : ∀ v, k.Accepts v → ∃ a, read k.heading k.key v = .ok a ∧ Says v a
  refused : ∀ v, ¬ k.Accepts v →
    read k.heading k.key v = .error (.invalid k.heading k.key v k.refusal)

/-- How reading a document ends: with a result that has a property, when it passes the checks, and
else with the error of the first check that it does not pass. -/
def Outcome (doc : Document) (ks : List Check) (P : β → Prop) (x : Except TextError β) : Prop :=
  ((∀ k ∈ ks, k.Passes doc) ∧ ∃ b, x = .ok b ∧ P b) ∨ ∃ e, x = .error e ∧ Refused doc ks e

theorem outcome_ok {P : β → Prop} {b : β} (h : P b) : Outcome doc [] P (.ok b) :=
  .inl ⟨by simp, b, rfl, h⟩

/-- One setting is read, and the rest of the settings after it. -/
theorem Check.MadeBy.outcome_bind {k : Check}
    {read : String → String → String → Except TextError α} (h : k.MadeBy read Says)
    {ks : List Check} {P : β → Prop} {f : α → Except TextError β}
    (hrest : ∀ a, Chosen doc k.heading k.key d Says a → Outcome doc ks P (f a)) :
    Outcome doc (k :: ks) P (orDefault doc k.heading k.key d read >>= f) := by
  have hgo : ∀ a, Chosen doc k.heading k.key d Says a → k.Passes doc →
      Outcome doc (k :: ks) P (f a) := by
    intro a ha hpass
    rcases hrest a ha with ⟨hall, hok⟩ | ⟨e, herror, hrefused⟩
    · exact .inl ⟨List.forall_mem_cons.mpr ⟨hpass, hall⟩, hok⟩
    · exact .inr ⟨e, herror, .later hpass hrefused⟩
  unfold orDefault
  cases hv : doc.value? k.heading k.key with
  | none =>
    exact hgo d (chosen_of_none hv) (Check.passes_of_none hv)
  | some v =>
    by_cases haccept : k.Accepts v
    · obtain ⟨a, hread, hvalue⟩ := h.accepted v haccept
      show Outcome doc (k :: ks) P (read k.heading k.key v >>= f)
      rw [hread]
      exact hgo a (chosen_of_some hv hvalue) (Check.passes_of_some hv haccept)
    · right
      show ∃ e, (read k.heading k.key v >>= f) = .error e ∧ Refused doc (k :: ks) e
      rw [h.refused v haccept]
      exact ⟨_, rfl, .here hv haccept⟩

theorem text_madeBy (key : String) :
    (Check.text key).MadeBy requireText SaysText where
  accepted v hv := by
    refine ⟨trimmed v, ?_, rfl⟩
    unfold requireText
    rw [nonBlank?_of_not_blank hv]
  refused v hv := by
    unfold requireText
    rw [nonBlank?_of_blank (not_not.mp hv)]
    rfl

theorem count_madeBy (heading key : String) :
    (Check.count heading key).MadeBy requirePositive SaysNumber where
  accepted v hv := by
    obtain ⟨n, hnumeral, hpos, hmax⟩ := hv
    refine ⟨n, ?_, hnumeral⟩
    obtain ⟨m, rfl⟩ : ∃ m, n = m + 1 := ⟨n - 1, by omega⟩
    unfold requirePositive
    rw [word?_eq_some_iff.mpr ⟨hnumeral, hmax⟩]
  refused v hv := by
    unfold requirePositive
    split
    · rename_i n hword
      obtain ⟨hnumeral, hmax⟩ := word?_eq_some_iff.mp hword
      exact absurd ⟨n + 1, hnumeral, Nat.le_add_left 1 n, hmax⟩ hv
    · rfl

theorem provisioner_madeBy :
    Check.provisioner.MadeBy requireProvisioner SaysProvisioner where
  accepted v hv := by
    unfold requireProvisioner ProvisionerKind.parse
    rcases hv with hword | hword
    · exact ⟨.plain, by rw [hword]; rfl, hword⟩
    · exact ⟨.custom, by rw [hword]; rfl, hword⟩
  refused v hv := by
    have hplain : lowered (trimmed v) ≠ "default" := fun hword => hv (.inl hword)
    have hcustom : lowered (trimmed v) ≠ "custom" := fun hword => hv (.inr hword)
    simp [requireProvisioner, ProvisionerKind.parse, hplain, hcustom, Check.provisioner]

/-- Reading a lease timeout when a blank one is passed over. -/
def readTimeout (heading key value : String) : Except TextError (Option Duration) :=
  if (nonBlank? value).isSome then requireTimeout heading key value else .ok none

theorem readTimeout_of_blank {v : String} (h : Blank v) : readTimeout heading key v = .ok none := by
  rw [readTimeout, nonBlank?_of_blank h]
  rfl

theorem readTimeout_of_not_blank {v : String} (h : ¬ Blank v) :
    readTimeout heading key v = requireTimeout heading key v := by
  rw [readTimeout, nonBlank?_of_not_blank h]
  exact if_pos rfl

theorem ite_bind_readTimeout (f : Option Duration → Except TextError β) :
    (if (nonBlankValue? doc heading key).isSome then
      orDefault doc heading key none requireTimeout >>= f
    else Except.ok none >>= f) = orDefault doc heading key none readTimeout >>= f := by
  unfold orDefault nonBlankValue?
  cases doc.value? heading key with
  | none => rfl
  | some v =>
    show _ = readTimeout heading key v >>= f
    unfold readTimeout
    rw [Option.bind_some]
    split
    · rfl
    · rfl

theorem timeout_madeBy : Check.timeout.MadeBy readTimeout (UnlessBlank none SaysTimeout) where
  accepted v hv := by
    by_cases hblank : Blank v
    · exact ⟨none, readTimeout_of_blank hblank, .inl ⟨hblank, rfl⟩⟩
    · obtain ⟨d, hd⟩ := hv hblank
      rw [readTimeout_of_not_blank hblank,
        requireTimeout_of_some (Duration.parse_eq_ok_iff.mp hd)]
      exact ⟨_, rfl, .inr ⟨hblank, d, hd, rfl⟩⟩
  refused v hv := by
    obtain ⟨hblank, hparse⟩ := Classical.not_imp.mp hv
    rw [readTimeout_of_not_blank hblank]
    apply requireTimeout_of_none
    rw [Option.eq_none_iff_forall_ne_some]
    intro d hd
    exact hparse ⟨d, Duration.parse_eq_ok_iff.mpr hd⟩

end Config

namespace Settings

open Config

/-- The settings that a document says, each by the value of one key. -/
structure Reflects (home : String) (doc : Document) (s : Settings) : Prop where
  space : Chosen doc "pool" "namespace" defaultSpace SaysText s.space
  resource : Chosen doc "pool" "resource_id" defaultResource SaysText s.resource
  size : Chosen doc "pool" "size" PoolOptions.defaultSize SaysNumber s.size
  provisioner : Chosen doc "pool" "initializer" .plain SaysProvisioner s.provisioner
  label : Chosen doc "pool" "prefix" defaultLabel (UnlessBlank defaultLabel SaysText) s.label
  purpose : Chosen doc "pool" "purpose" none
    (UnlessBlank none fun v a => a = some (trimmed v)) s.purpose
  createdBy : Chosen doc "pool" "created_by" none
    (UnlessBlank none fun v a => a = some (trimmed v)) s.createdBy
  leaseTimeout : Chosen doc "lease" "timeout" none (UnlessBlank none SaysTimeout) s.leaseTimeout
  capacity : Chosen doc "coordinator" "channel_capacity" PoolOptions.defaultCapacity SaysNumber
    s.capacity
  logFile : Chosen doc "logging" "file" (default home).logFile
    (UnlessBlank (default home).logFile fun v a => a = expandHome home (trimmed v)) s.logFile

theorem outcome_ofDocument (home : String) (doc : Document) :
    Outcome doc checks (Reflects home doc) (ofDocument home doc) := by
  unfold ofDocument
  refine (text_madeBy "namespace").outcome_bind fun space hspace => ?_
  refine (text_madeBy "resource_id").outcome_bind fun resource hresource => ?_
  refine (count_madeBy "pool" "size").outcome_bind fun size hsize => ?_
  refine provisioner_madeBy.outcome_bind fun provisioner hprovisioner => ?_
  dsimp only
  rw [ite_bind_readTimeout]
  refine timeout_madeBy.outcome_bind fun leaseTimeout hleaseTimeout => ?_
  refine (count_madeBy "coordinator" "channel_capacity").outcome_bind fun capacity hcapacity => ?_
  have hlabel : Chosen doc "pool" "prefix" defaultLabel (UnlessBlank defaultLabel SaysText)
      (((nonBlankValue? doc "pool" "prefix").map id).getD defaultLabel) := chosen_nonBlankValue? id
  rw [Option.map_id] at hlabel
  exact outcome_ok
    { space := hspace
      resource := hresource
      size := hsize
      provisioner := hprovisioner
      label := hlabel
      purpose := chosen_text
      createdBy := chosen_text
      leaseTimeout := hleaseTimeout
      capacity := hcapacity
      logFile := chosen_nonBlankValue? (expandHome home) }

/-- The options that settings give. A custom provisioner puts the label before its ids, and the
purpose and the creator, if they are set, on its resources. -/
structure Gives (s : Settings) (o : PoolOptions) : Prop where
  size_eq : o.size = s.size
  leaseTimeout_eq : o.leaseTimeout = s.leaseTimeout
  capacity_eq : o.capacity = s.capacity
  plain : s.provisioner = .plain → o.provisioner = .plain
  custom : s.provisioner = .custom → ∃ overlay, o.provisioner = .custom s.label overlay ∧
    ∀ key, overlay.get? key =
      if MetaKey.createdBy = key then s.createdBy.map .string
      else if MetaKey.purpose = key then s.purpose.map .string
      else none

theorem gives_toOptions (s : Settings) : s.Gives s.toOptions where
  size_eq := rfl
  leaseTimeout_eq := rfl
  capacity_eq := rfl
  plain hplain := by rw [toOptions, toProvisioner, hplain]
  custom hcustom := by
    rw [toOptions, toProvisioner, hcustom]
    refine ⟨_, rfl, fun key => ?_⟩
    have hdistinct : MetaKey.createdBy = key → MetaKey.purpose ≠ key := by
      rintro rfl
      decide
    cases s.purpose <;> cases s.createdBy <;> simp [Fields.get?_insert, Fields.get?]
    exact hdistinct

/-- Settings that pools can be started with, if the slots and the inbox can be held. -/
structure Usable (s : Settings) : Prop where
  space : Trimmed s.space
  resource : Trimmed s.resource
  label : Trimmed s.label
  purpose : ∀ p ∈ s.purpose, Trimmed p
  createdBy : ∀ p ∈ s.createdBy, Trimmed p
  size : 1 ≤ s.size ∧ s.size ≤ wordMax
  capacity : 1 ≤ s.capacity ∧ s.capacity ≤ wordMax
  leaseTimeout : WholeTimeout s.leaseTimeout
  gives : s.Gives s.toOptions
  opens : s.toOptions.Fits → ∀ name now, ∃ c e,
    Coordinator.start name s.toOptions now = .ok (c, e) ∧ c.pool.slots.length = s.size ∧
      c.leaseTimeout = s.leaseTimeout ∧ c.provisioner = s.toOptions.provisioner
  /-- Otherwise no pool starts. -/
  breaksOff : ¬ s.toOptions.Fits → ∀ name now,
    Coordinator.start name s.toOptions now = .error .overflow

theorem exists_start {s : Settings} (h : 1 ≤ s.size) (hfits : s.toOptions.Fits) (name : PoolName)
    (now : Readings) : ∃ c e, Coordinator.start name s.toOptions now = .ok (c, e) ∧
      c.pool.slots.length = s.size ∧ c.leaseTimeout = s.leaseTimeout ∧
      c.provisioner = s.toOptions.provisioner := by
  obtain ⟨c, e, hcreate⟩ : ∃ c e, Coordinator.create name s.toOptions now = .ok (c, e) :=
    Coordinator.exists_create name now h
  obtain ⟨-, hc, -⟩ := Coordinator.create_eq_ok hcreate
  refine ⟨c, e, ?_, ?_, congrArg Coordinator.leaseTimeout hc, congrArg Coordinator.provisioner hc⟩
  · rw [Coordinator.start_of_fits hfits, hcreate]
    rfl
  · rw [hc]
    exact s.toOptions.provisioner.length_stock name now s.size

theorem Reflects.usable {home : String} {doc : Document} {s : Settings}
    (h : Reflects home doc s) (hpass : ∀ k ∈ checks, k.Passes doc) : s.Usable := by
  have hspace : (Check.text "namespace").Passes doc := hpass _ (by simp [checks])
  have hresource : (Check.text "resource_id").Passes doc := hpass _ (by simp [checks])
  have hcount : (Check.count "pool" "size").Passes doc := hpass _ (by simp [checks])
  have hcapacity : (Check.count "coordinator" "channel_capacity").Passes doc :=
    hpass _ (by simp [checks])
  have hsize : 1 ≤ s.size ∧ s.size ≤ wordMax := h.size.positive (by decide) hcount
  exact
    { space := h.space.trimmed (by decide) hspace
      resource := h.resource.trimmed (by decide) hresource
      label := h.label.trimmed_unlessBlank (by decide)
      purpose := h.purpose.text
      createdBy := h.createdBy.text
      size := hsize
      capacity := h.capacity.positive (by decide) hcapacity
      leaseTimeout := h.leaseTimeout.wholeTimeout
      gives := s.gives_toOptions
      opens := exists_start hsize.1
      breaksOff := fun hover _ _ => Coordinator.start_of_not_fits hsize.1 hover }

theorem reflects_of_ofDocument {home : String} {doc : Document} {s : Settings}
    (h : ofDocument home doc = .ok s) : Reflects home doc s ∧ s.Usable := by
  rcases outcome_ofDocument home doc with ⟨hpass, s', hok, hs⟩ | ⟨e, herror, -⟩
  · rw [hok] at h
    cases h
    exact ⟨hs, hs.usable hpass⟩
  · rw [herror] at h
    cases h

end Settings

end LeasePool
