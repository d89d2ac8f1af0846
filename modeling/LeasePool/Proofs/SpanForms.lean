import LeasePool.Duration
import LeasePool.Proofs.Casing

/-!
The written form of a span of time, told apart from the way it is read: which texts name a number
of units, and that reading accepts these and no others, as long as the number and its milliseconds
fit in a word.
-/
namespace LeasePool

namespace Text

/-! ### Numerals -/

/-- A number as it is written: digits after an optional plus sign. -/
def Numeral (s : List Char) (n : Nat) : Prop :=
  ∃ digits, (s = digits ∨ s = '+' :: digits) ∧ digits ≠ [] ∧
    (∀ c ∈ digits, c.isDigit = true) ∧ n = Nat.ofDigitChars 10 digits 0

theorem eq_unsigned_or (s : List Char) : s = unsigned s ∨ s = '+' :: unsigned s := by
  unfold unsigned
  split
  · exact .inr rfl
  · exact .inl rfl

theorem natural?_eq_some_iff {s : List Char} {n : Nat} : natural? s = some n ↔ Numeral s n := by
  constructor
  · intro h
    simp only [natural?] at h
    split at h
    · rename_i hdigits
      cases h
      exact ⟨unsigned s, eq_unsigned_or s, hdigits.1, List.all_eq_true.mp hdigits.2, rfl⟩
    · cases h
  · intro h
    obtain ⟨digits, hs, hne, hall, hn⟩ := h
    have hdigits : digits.all Char.isDigit = true := List.all_eq_true.mpr hall
    have hunsigned : unsigned s = digits := by
      rcases hs with rfl | rfl
      · exact unsigned_of_all_isDigit hdigits
      · rfl
    simp only [natural?, hunsigned]
    rw [if_pos ⟨hne, hdigits⟩, hn]

theorem word?_eq_some_iff {s : List Char} {n : Nat} :
    word? s = some n ↔ Numeral s n ∧ n ≤ wordMax := by
  rw [← natural?_eq_some_iff]
  unfold word?
  cases natural? s with
  | none => simp
  | some m =>
    simp only [Option.ite_none_right_eq_some, Option.some.injEq]
    constructor
    · rintro ⟨hm, rfl⟩
      exact ⟨rfl, hm⟩
    · rintro ⟨rfl, hm⟩
      exact ⟨hm, rfl⟩

theorem Numeral.word?_eq {s : List Char} {n : Nat} (h : Numeral s n) :
    word? s = if n ≤ wordMax then some n else none := by
  rw [word?, natural?_eq_some_iff.mpr h]

/-- The characters of a numeral are digits and the plus sign. -/
theorem Numeral.forall_mem {s : List Char} {n : Nat} (h : Numeral s n) :
    ∀ c ∈ s, c.isDigit = true ∨ c = '+' := by
  obtain ⟨digits, hs, -, hall, -⟩ := h
  intro c hc
  rcases hs with rfl | rfl
  · exact .inl (hall c hc)
  · rcases List.mem_cons.mp hc with rfl | hc
    · exact .inr rfl
    · exact .inl (hall c hc)

theorem Numeral.ne_nil {s : List Char} {n : Nat} (h : Numeral s n) : s ≠ [] := by
  obtain ⟨digits, rfl | rfl, hne, -⟩ := h
  · exact hne
  · exact List.cons_ne_nil _ _

theorem Numeral.unique {s : List Char} {n m : Nat} (hn : Numeral s n) (hm : Numeral s m) :
    n = m := by
  have hsome : natural? s = some m := natural?_eq_some_iff.mpr hm
  rw [natural?_eq_some_iff.mpr hn] at hsome
  exact Option.some.inj hsome

theorem numeral_repr (n : Nat) : Numeral n.repr.toList n :=
  natural?_eq_some_iff.mp (natural?_repr n)

/-! ### Letters -/

/-- A character other than a small ASCII letter. -/
def Unlettered (c : Char) : Prop := c.toNat < 97 ∨ 122 < c.toNat

instance (c : Char) : Decidable (Unlettered c) := inferInstanceAs (Decidable (_ ∨ _))

theorem unlettered_of_isBlank {c : Char} (h : isBlank c = true) : Unlettered c := by
  obtain ⟨r, hr, hrange⟩ := (CharSet.contains_iff blanks c).mp h
  have hoff : ∀ r ∈ blanks.ranges, r.2 < 97 ∨ 122 < r.1 := by decide
  have haway := hoff r hr
  unfold Unlettered
  omega

theorem Numeral.unlettered {s : List Char} {n : Nat} (h : Numeral s n) : ∀ c ∈ s, Unlettered c := by
  intro c hc
  left
  rcases h.forall_mem c hc with hdigit | rfl
  · have hrange : 48 ≤ c.toNat ∧ c.toNat ≤ 57 := Char.isDigit_iff_toNat.mp hdigit
    omega
  · decide

theorem Numeral.isMark {s : List Char} {n : Nat} (h : Numeral s n) : ∀ c ∈ s, isMark c = true := by
  intro c hc
  rcases h.forall_mem c hc with hdigit | rfl
  · exact isMark_of_isDigit hdigit
  · decide

theorem Numeral.tight {s : List Char} {n : Nat} (h : Numeral s n) : Tight s := by
  apply tight_of_forall
  intro c hc
  rcases h.forall_mem c hc with hdigit | rfl
  · exact isBlank_of_isDigit hdigit
  · decide

/-- A text whose lower case has no letters in it has none itself, and is its own lower case. -/
theorem eq_of_map_toLower {s t : List Char} (h : s.map Char.toLower = t)
    (ht : ∀ c ∈ t, Unlettered c) : s = t := by
  subst h
  have hself : s.map Char.toLower = s.map id := by
    apply List.map_congr_left
    intro c hc
    rcases toLower_eq_self_or c with hsame | hletter
    · exact hsame
    · have hoff := ht c.toLower (List.mem_map_of_mem hc)
      unfold Unlettered at hoff
      omega
  rw [hself, List.map_id]

end Text

namespace Duration

open Text

/-! ### Splitting off the unit -/

theorem before?_eq_some_iff {ending s number : List Char} :
    before? ending s = some number ↔ s = number ++ ending := by
  constructor
  · intro h
    unfold before? at h
    split at h
    · rename_i hsuffix
      obtain ⟨rest, rfl⟩ := List.isSuffixOf_iff_suffix.mp hsuffix
      simpa using h
    · cases h
  · rintro rfl
    simp [before?, List.isSuffixOf_iff_suffix]

theorem before?_append (number ending : List Char) :
    before? ending (number ++ ending) = some number :=
  before?_eq_some_iff.mpr rfl

/-- A text without one of the letters of an ending does not have that ending. -/
theorem before?_eq_none {ending s : List Char} {c : Char} (hc : c ∈ ending) (hs : c ∉ s) :
    before? ending s = none := by
  have hnot : ¬ ending <:+ s := fun hsuffix => hs (hsuffix.subset hc)
  simp [before?, hnot]

/-- A text splits into its number and the symbol of its unit, or is all number. -/
theorem splitMeasure_eq_or (s : List Char) :
    s = (splitMeasure s).1 ++ (splitMeasure s).2.symbol.toList ∨
      splitMeasure s = (s, .second) := by
  unfold splitMeasure
  split
  · rename_i hms
    exact .inl (by simpa [Measure.symbol] using before?_eq_some_iff.mp hms)
  · split
    · rename_i hsecond
      exact .inl (by simpa [Measure.symbol] using before?_eq_some_iff.mp hsecond)
    · split
      · rename_i hminute
        exact .inl (by simpa [Measure.symbol] using before?_eq_some_iff.mp hminute)
      · split
        · rename_i hhour
          exact .inl (by simpa [Measure.symbol] using before?_eq_some_iff.mp hhour)
        · exact .inr rfl

theorem not_mem_of_unlettered {number : List Char} (h : ∀ c ∈ number, Unlettered c) {c : Char}
    (hc : ¬ Unlettered c) : c ∉ number :=
  fun hmem => hc (h c hmem)

theorem splitMeasure_append {number : List Char} (h : ∀ c ∈ number, Unlettered c)
    (unit : Measure) : splitMeasure (number ++ unit.symbol.toList) = (number, unit) := by
  have hm : 'm' ∉ number := not_mem_of_unlettered h (by decide)
  have hs : 's' ∉ number := not_mem_of_unlettered h (by decide)
  cases unit with
  | millisecond =>
    have hms : before? ['m', 's'] (number ++ ['m', 's']) = some number := before?_append _ _
    simp [splitMeasure, Measure.symbol, hms]
  | second =>
    have hms : before? ['m', 's'] (number ++ ['s']) = none :=
      before?_eq_none (c := 'm') (by decide) (by simp [hm])
    simp [splitMeasure, Measure.symbol, hms, before?_append]
  | minute =>
    have hms : before? ['m', 's'] (number ++ ['m']) = none :=
      before?_eq_none (c := 's') (by decide) (by simp [hs])
    have hsec : before? ['s'] (number ++ ['m']) = none :=
      before?_eq_none (c := 's') (by decide) (by simp [hs])
    simp [splitMeasure, Measure.symbol, hms, hsec, before?_append]
  | hour =>
    have hms : before? ['m', 's'] (number ++ ['h']) = none :=
      before?_eq_none (c := 's') (by decide) (by simp [hs])
    have hsec : before? ['s'] (number ++ ['h']) = none :=
      before?_eq_none (c := 's') (by decide) (by simp [hs])
    have hmin : before? ['m'] (number ++ ['h']) = none :=
      before?_eq_none (c := 'm') (by decide) (by simp [hm])
    simp [splitMeasure, Measure.symbol, hms, hsec, hmin, before?_append]

theorem splitMeasure_of_unlettered {number : List Char} (h : ∀ c ∈ number, Unlettered c) :
    splitMeasure number = (number, .second) := by
  have hm : 'm' ∉ number := not_mem_of_unlettered h (by decide)
  have hs : 's' ∉ number := not_mem_of_unlettered h (by decide)
  have hh : 'h' ∉ number := not_mem_of_unlettered h (by decide)
  have hms : before? ['m', 's'] number = none := before?_eq_none (c := 'm') (by decide) hm
  have hsec : before? ['s'] number = none := before?_eq_none (c := 's') (by decide) hs
  have hmin : before? ['m'] number = none := before?_eq_none (c := 'm') (by decide) hm
  have hhour : before? ['h'] number = none := before?_eq_none (c := 'h') (by decide) hh
  simp [splitMeasure, hms, hsec, hmin, hhour]

/-! ### The written form -/

/-- The texts that name a number of units: a numeral by itself, which counts seconds, or one with
the symbol of its unit after it, in letters of either case and with blanks in between. -/
inductive Spells : List Char → Nat → Measure → Prop where
  | bare {number : List Char} {n : Nat} (hnumber : Numeral number n) : Spells number n .second
  | marked {number gap symbol : List Char} {n : Nat} {unit : Measure} (hnumber : Numeral number n)
      (hgap : ∀ c ∈ gap, isBlank c = true)
      (hsymbol : symbol.map Char.toLower = unit.symbol.toList) :
      Spells (number ++ gap ++ symbol) n unit

/-- A number with blanks around it holds no letters. -/
theorem unlettered_of_word? {number : List Char} {n : Nat} (h : word? (trim number) = some n) :
    ∀ c ∈ number, Unlettered c ∧ isMark c = true := by
  have hnumeral := (word?_eq_some_iff.mp h).1
  obtain ⟨lead, gap, hsplit, hlead, hgap⟩ := exists_trim_append number
  intro c hc
  rw [hsplit] at hc
  simp only [List.mem_append] at hc
  rcases hc with (hc | hc) | hc
  · exact ⟨unlettered_of_isBlank (hlead c hc), isMark_of_isBlank (hlead c hc)⟩
  · exact ⟨hnumeral.unlettered c hc, hnumeral.isMark c hc⟩
  · exact ⟨unlettered_of_isBlank (hgap c hc), isMark_of_isBlank (hgap c hc)⟩

theorem isMark_of_mem_symbol {unit : Measure} : ∀ c ∈ unit.symbol.toList, isMark c = true := by
  cases unit <;> decide

/-- What is read as a number of units is written as one: the case of its letters is all that
lowering changes, and nothing stands before the number. -/
theorem spells_of_splitMeasure {s number : List Char} {n : Nat} {unit : Measure} (htight : Tight s)
    (hsplit : splitMeasure (lower s) = (number, unit)) (hword : word? (trim number) = some n) :
    Spells s n unit := by
  have hnumeral := (word?_eq_some_iff.mp hword).1
  have hplain := unlettered_of_word? hword
  obtain ⟨lead, gap, hnumber, hlead, hgap⟩ := exists_trim_append number
  rcases splitMeasure_eq_or (lower s) with hmarked | hbare
  · rw [hsplit] at hmarked
    have hmarks : ∀ c ∈ lower s, isMark c = true := by
      intro c hc
      rw [hmarked] at hc
      rcases List.mem_append.mp hc with hc | hc
      · exact (hplain c hc).2
      · exact isMark_of_mem_symbol c hc
    rw [lower_eq_map_of_marks hmarks] at hmarked
    obtain ⟨front, symbol, rfl, hfront, hsymbol⟩ := List.map_eq_append_iff.mp hmarked
    obtain rfl := eq_of_map_toLower hfront fun c hc => (hplain c hc).1
    rw [hnumber, List.append_assoc, List.append_assoc] at htight
    rw [hnumber, htight.eq_nil_of_blanks hlead]
    exact .marked hnumeral hgap hsymbol
  · rw [hsplit] at hbare
    cases hbare
    have hmarks : ∀ c ∈ lower s, isMark c = true := fun c hc => (hplain c hc).2
    have hsame : s = lower s :=
      eq_of_map_toLower (lower_eq_map_of_marks hmarks).symm fun c hc => (hplain c hc).1
    rw [← hsame, htight.trim_eq] at hnumeral
    exact .bare hnumeral

/-- Lower case changes the letters of the unit and nothing else. -/
theorem lower_append {front symbol : List Char} {unit : Measure}
    (hfront : ∀ c ∈ front, isMark c = true)
    (hsymbol : symbol.map Char.toLower = unit.symbol.toList) :
    lower (front ++ symbol) = front ++ unit.symbol.toList := by
  have hmarks : ∀ c ∈ front ++ symbol, isMark c.toLower = true := by
    intro c hc
    rcases List.mem_append.mp hc with hc | hc
    · rw [toLower_of_isMark (hfront c hc)]
      exact hfront c hc
    · have hletter : c.toLower ∈ unit.symbol.toList := by
        rw [← hsymbol]
        exact List.mem_map_of_mem hc
      exact isMark_of_mem_symbol _ hletter
  rw [lower_eq_map_of_marks_toLower hmarks, List.map_append, map_toLower_of_marks hfront, hsymbol]

theorem parse?_of_spells {s : List Char} {n : Nat} {unit : Measure} (h : Spells (trim s) n unit) :
    parse? s = if n ≤ wordMax then ofUnits? n unit else none := by
  have hread : ∀ number, splitMeasure (lower (trim s)) = (number, unit) →
      Numeral (trim number) n → parse? s = if n ≤ wordMax then ofUnits? n unit else none := by
    intro number hsplit hnumber
    simp only [parse?, hsplit, hnumber.word?_eq]
    by_cases hword : n ≤ wordMax
    · simp only [hword, if_true]
    · simp only [hword, if_false]
  generalize trim s = body at h hread
  cases h with
  | bare hnumber =>
    apply hread body
    · rw [lower_of_marks hnumber.isMark]
      exact splitMeasure_of_unlettered hnumber.unlettered
    · rwa [hnumber.tight.trim_eq]
  | @marked number gap symbol _ _ hnumber hgap hsymbol =>
    apply hread (number ++ gap)
    · have hmarks : ∀ c ∈ number ++ gap, isMark c = true := by
        intro c hc
        rcases List.mem_append.mp hc with hc | hc
        · exact hnumber.isMark c hc
        · exact isMark_of_isBlank (hgap c hc)
      have hplain : ∀ c ∈ number ++ gap, Unlettered c := by
        intro c hc
        rcases List.mem_append.mp hc with hc | hc
        · exact hnumber.unlettered c hc
        · exact unlettered_of_isBlank (hgap c hc)
      rw [lower_append hmarks hsymbol]
      exact splitMeasure_append hplain unit
    · rwa [hnumber.tight.trim_append_blanks hnumber.ne_nil hgap]

theorem exists_spells_of_parse? {s : List Char} {d : Duration} (h : parse? s = some d) :
    ∃ n unit, Spells (trim s) n unit := by
  simp only [parse?] at h
  split at h
  · rename_i n hword
    exact ⟨n, _, spells_of_splitMeasure (tight_trim s) rfl hword⟩
  · cases h

theorem ofUnits?_eq_some_iff {n : Nat} {unit : Measure} {d : Duration} :
    ofUnits? n unit = some d ↔
      n * unit.millis ≤ wordMax ∧ d.nanos = n * unit.millis * 1000000 := by
  unfold ofUnits?
  constructor
  · intro h
    split at h
    · rename_i hfit
      cases h
      exact ⟨hfit, rfl⟩
    · cases h
  · intro ⟨hfit, hnanos⟩
    rw [dif_pos hfit]
    congr 1
    cases d
    cases hnanos
    rfl

/-- Reading accepts the written forms whose number and whole milliseconds fit in a word, and gives
exactly so many milliseconds. -/
theorem parse?_eq_some_iff {s : List Char} {d : Duration} :
    parse? s = some d ↔ ∃ n unit, Spells (trim s) n unit ∧ n ≤ wordMax ∧
      n * unit.millis ≤ wordMax ∧ d.nanos = n * unit.millis * 1000000 := by
  constructor
  · intro h
    obtain ⟨n, unit, hspells⟩ := exists_spells_of_parse? h
    rw [parse?_of_spells hspells, Option.ite_none_right_eq_some] at h
    exact ⟨n, unit, hspells, h.1, ofUnits?_eq_some_iff.mp h.2⟩
  · intro ⟨n, unit, hspells, hword, hunits⟩
    rw [parse?_of_spells hspells, if_pos hword]
    exact ofUnits?_eq_some_iff.mpr hunits

/-- A number of units is refused only for its size. -/
theorem parse?_eq_none_iff {s : List Char} :
    parse? s = none ↔ ¬ ∃ n unit, Spells (trim s) n unit ∧ n ≤ wordMax ∧
      n * unit.millis ≤ wordMax := by
  rw [← Option.not_isSome_iff_eq_none, Option.isSome_iff_exists]
  apply not_congr
  constructor
  · intro ⟨d, hd⟩
    obtain ⟨n, unit, hspells, hword, hfit, -⟩ := parse?_eq_some_iff.mp hd
    exact ⟨n, unit, hspells, hword, hfit⟩
  · intro ⟨n, unit, hspells, hword, hfit⟩
    exact ⟨ofMillis (n * unit.millis) hfit,
      parse?_eq_some_iff.mpr ⟨n, unit, hspells, hword, hfit, rfl⟩⟩

theorem parse_eq_ok_iff {s : String} {d : Duration} :
    parse s = .ok d ↔ parse? s.toList = some d := by
  unfold parse
  cases parse? s.toList <;> simp

theorem parse_eq_error_iff {s : String} {e : ParseError} :
    parse s = .error e ↔ e.input = s ∧ parse? s.toList = none := by
  unfold parse
  cases parse? s.toList with
  | none =>
    simp only [Except.error.injEq, and_true]
    exact ⟨fun h => by rw [← h], fun h => by rw [← h]⟩
  | some d => simp

/-- A text is a span exactly if it has the written form, with as many milliseconds as it says. Any
other text is refused, also one whose milliseconds are too many only after the multiplication, and
the refusal shows it as it was given. -/
theorem parse_iff_spells (s : String) :
    (∀ d, parse s = .ok d ↔ ∃ n unit, Spells (trim s.toList) n unit ∧ n ≤ wordMax ∧
      n * unit.millis ≤ wordMax ∧ d.nanos = n * unit.millis * 1000000) ∧
    ∀ e, parse s = .error e ↔ e.input = s ∧ ¬ ∃ n unit, Spells (trim s.toList) n unit ∧
      n ≤ wordMax ∧ n * unit.millis ≤ wordMax := by
  constructor
  · intro d
    rw [parse_eq_ok_iff]
    exact parse?_eq_some_iff
  · intro e
    rw [parse_eq_error_iff, parse?_eq_none_iff]

end Duration

end LeasePool
