import LeasePool.Proofs.Trimming
import LeasePool.Text.Lowercase

/-!
Lower case and the characters that written spans are made of. Outside ASCII no character turns into
one of them when its case changes, and none of them changes: a text whose lower case holds nothing
else has been lowered letter by letter, as ASCII texts are.
-/
namespace LeasePool.Text

/-- Digits, the plus sign, the small letters of the units, and blanks. -/
def marks : CharSet :=
  ⟨(0x2b, 0x2b) :: (0x30, 0x39) :: (0x68, 0x68) :: (0x6d, 0x6d) :: (0x73, 0x73) :: blanks.ranges⟩

def isMark (c : Char) : Bool := marks.contains c

theorem isMark_iff (c : Char) :
    isMark c = true ↔ ∃ m ∈ marks.ranges, m.1 ≤ c.toNat ∧ c.toNat ≤ m.2 :=
  CharSet.contains_iff marks c

theorem isMark_of_isBlank {c : Char} (h : isBlank c = true) : isMark c = true := by
  obtain ⟨m, hm, hrange⟩ := (CharSet.contains_iff blanks c).mp h
  refine (isMark_iff c).mpr ⟨m, ?_, hrange⟩
  simp only [marks, List.mem_cons]
  exact .inr (.inr (.inr (.inr (.inr hm))))

theorem isMark_of_isDigit {c : Char} (h : c.isDigit = true) : isMark c = true := by
  refine (isMark_iff c).mpr ⟨(0x30, 0x39), ?_, Char.isDigit_iff_toNat.mp h⟩
  simp [marks]

/-! ### Single characters -/

/-- Neither the characters of a run nor their lower case lie in a range. -/
def CaseRun.Avoids (r : CaseRun) (m : Nat × Nat) : Prop :=
  (r.last < m.1 ∨ m.2 < r.first) ∧
    ((r.last + r.shift).toNat < m.1 ∨ m.2 < (r.first + r.shift).toNat)

instance (r : CaseRun) (m : Nat × Nat) : Decidable (r.Avoids m) :=
  inferInstanceAs (Decidable (_ ∧ _))

/-- The case of letters outside ASCII has nothing to do with the marks. -/
theorem avoids_of_mem_lowerRuns :
    ∀ r ∈ lowerRuns, 0x80 ≤ r.last → ∀ m ∈ marks.ranges, r.Avoids m := by
  decide +kernel

theorem pos_of_mem_marks : ∀ m ∈ marks.ranges, 0 < m.1 := by
  decide

/-- A number that is no character's gives the character 0. -/
theorem toNat_apply_or (r : CaseRun) (c : Char) :
    (r.apply c).toNat = (c.toNat + r.shift).toNat ∨ (r.apply c).toNat = 0 := by
  by_cases hvalid : (c.toNat + r.shift).toNat.isValidChar
  · left
    have happly : r.apply c = Char.ofNatAux (c.toNat + r.shift).toNat hvalid := dif_pos hvalid
    rw [happly]
    rfl
  · right
    have happly : r.apply c = '\x00' := dif_neg hvalid
    rw [happly]
    rfl

theorem not_isMark_of_covers {r : CaseRun} {c : Char} (hr : ∀ m ∈ marks.ranges, r.Avoids m)
    (h : r.covers c = true) : isMark c = false ∧ isMark (r.apply c) = false := by
  simp only [CaseRun.covers, Bool.and_eq_true, decide_eq_true_eq] at h
  obtain ⟨⟨hfirst, hlast⟩, -⟩ := h
  constructor
  · rw [← Bool.not_eq_true, isMark_iff]
    intro ⟨m, hm, hlow, hhigh⟩
    have haway := (hr m hm).1
    omega
  · rw [← Bool.not_eq_true, isMark_iff]
    intro ⟨m, hm, hlow, hhigh⟩
    have haway := (hr m hm).2
    have hpos := pos_of_mem_marks m hm
    have happly := toNat_apply_or r c
    omega

theorem toLower_of_not_ascii {c : Char} (h : 0x80 ≤ c.toNat) : c.toLower = c := by
  apply dif_neg
  intro hupper
  have hcapital : 65 ≤ c.toNat ∧ c.toNat ≤ 90 := hupper
  omega

/-- A character whose lower case is a mark is lowered as in ASCII, and so is one that is made a
mark there. -/
theorem lowerChar_eq_or (c : Char) :
    lowerChar c = [c.toLower] ∨
      (∃ a ∈ lowerChar c, isMark a = false) ∧ isMark c.toLower = false := by
  by_cases hascii : c.toNat < 0x80
  · exact .inl (if_pos hascii)
  have hlow : c.toLower = c := toLower_of_not_ascii (Nat.le_of_not_lt hascii)
  rw [lowerChar, if_neg hascii, hlow]
  by_cases hdotted : c.toNat = 0x130
  · right
    rw [if_pos hdotted]
    have hc : c = '\u0130' := Char.toNat_inj.mp hdotted
    exact ⟨⟨'i', List.mem_cons_self, by decide⟩, by rw [hc]; decide⟩
  rw [if_neg hdotted]
  cases hrun : lowerRuns.find? (·.covers c) with
  | none => exact .inl rfl
  | some r =>
    right
    have hcovers : r.covers c = true := by simpa using List.find?_some hrun
    have hlast : c.toNat ≤ r.last := by
      simp only [CaseRun.covers, Bool.and_eq_true, decide_eq_true_eq] at hcovers
      exact hcovers.1.2
    have haway := avoids_of_mem_lowerRuns r (List.mem_of_find?_eq_some hrun) (by omega)
    obtain ⟨hplain, happly⟩ := not_isMark_of_covers haway hcovers
    exact ⟨⟨r.apply c, List.mem_singleton_self _, happly⟩, hplain⟩

/-! ### Texts -/

/-- The first character of a text, the capital sigma included. -/
theorem exists_lowerAfter_cons (before : List Char) (c : Char) (rest : List Char) :
    ∃ low, lowerAfter before (c :: rest) = low ++ lowerAfter (c :: before) rest ∧
      (low = [c.toLower] ∨ (∃ a ∈ low, isMark a = false) ∧ isMark c.toLower = false) := by
  refine ⟨_, rfl, ?_⟩
  split
  · rename_i hsigma
    simp only [Bool.and_eq_true, decide_eq_true_eq] at hsigma
    have hc : c = '\u03a3' := hsigma.1.1
    right
    exact ⟨⟨'\u03c2', List.mem_singleton_self _, by decide⟩, by rw [hc]; decide⟩
  · exact lowerChar_eq_or c

theorem lowerAfter_eq_or (before s : List Char) :
    lowerAfter before s = s.map Char.toLower ∨
      (∃ a ∈ lowerAfter before s, isMark a = false) ∧ ∃ c ∈ s, isMark c.toLower = false := by
  induction s generalizing before with
  | nil => exact .inl rfl
  | cons c rest ih =>
    obtain ⟨low, hsplit, hlow⟩ := exists_lowerAfter_cons before c rest
    rw [hsplit]
    rcases hlow with rfl | ⟨⟨a, ha, hmark⟩, hc⟩
    · rcases ih (c :: before) with hrest | ⟨⟨a, ha, hmark⟩, b, hb, hlower⟩
      · left
        rw [hrest]
        rfl
      · right
        exact ⟨⟨a, List.mem_append_right _ ha, hmark⟩, b, List.mem_cons_of_mem c hb, hlower⟩
    · right
      exact ⟨⟨a, List.mem_append_left _ ha, hmark⟩, c, List.mem_cons_self, hc⟩

/-- A text whose lower case consists of marks has been lowered as in ASCII. -/
theorem lower_eq_map_of_marks {s : List Char} (h : ∀ a ∈ lower s, isMark a = true) :
    lower s = s.map Char.toLower := by
  rcases lowerAfter_eq_or [] s with hlower | ⟨⟨a, ha, hmark⟩, -⟩
  · exact hlower
  · rw [h a ha] at hmark
    cases hmark

/-- A text that ASCII lowers to marks is lowered like that. -/
theorem lower_eq_map_of_marks_toLower {s : List Char} (h : ∀ c ∈ s, isMark c.toLower = true) :
    lower s = s.map Char.toLower := by
  rcases lowerAfter_eq_or [] s with hlower | ⟨-, c, hc, hmark⟩
  · exact hlower
  · rw [h c hc] at hmark
    cases hmark

/-- Only letters have case. -/
theorem toLower_eq_self_or (c : Char) :
    c.toLower = c ∨ 97 ≤ c.toLower.toNat ∧ c.toLower.toNat ≤ 122 := by
  by_cases hupper : 65 ≤ c.toNat ∧ c.toNat ≤ 90
  · right
    have hval : c.toLower.val = c.val + 32 := by
      unfold Char.toLower
      rw [dif_pos (show c.val ≥ 'A'.val ∧ c.val ≤ 'Z'.val from hupper)]
      rfl
    have hbig : c.val.toNat ≤ 90 := hupper.2
    show 97 ≤ c.toLower.val.toNat ∧ c.toLower.val.toNat ≤ 122
    rw [hval, UInt32.toNat_add]
    have hsmall : 65 ≤ c.val.toNat := hupper.1
    have hsum : (c.val.toNat + 32) % 2 ^ 32 = c.val.toNat + 32 := Nat.mod_eq_of_lt (by omega)
    show 97 ≤ (c.val.toNat + 32) % 2 ^ 32 ∧ (c.val.toNat + 32) % 2 ^ 32 ≤ 122
    omega
  · exact .inl (dif_neg hupper)

/-- No mark is a capital letter. -/
theorem toLower_of_isMark {c : Char} (h : isMark c = true) : c.toLower = c := by
  obtain ⟨m, hm, hlow, hhigh⟩ := (isMark_iff c).mp h
  have hoff : ∀ m ∈ marks.ranges, m.2 < 65 ∨ 90 < m.1 := by decide
  have haway := hoff m hm
  apply dif_neg
  intro hupper
  have hcapital : 65 ≤ c.toNat ∧ c.toNat ≤ 90 := hupper
  omega

theorem map_toLower_of_marks {s : List Char} (h : ∀ c ∈ s, isMark c = true) :
    s.map Char.toLower = s := by
  have hself : s.map Char.toLower = s.map id :=
    List.map_congr_left fun c hc => toLower_of_isMark (h c hc)
  rw [hself, List.map_id]

theorem lower_of_marks {s : List Char} (h : ∀ c ∈ s, isMark c = true) : lower s = s := by
  have hlower : lower s = s.map Char.toLower := by
    apply lower_eq_map_of_marks_toLower
    intro c hc
    rw [toLower_of_isMark (h c hc)]
    exact h c hc
  rw [hlower, map_toLower_of_marks h]

end LeasePool.Text
