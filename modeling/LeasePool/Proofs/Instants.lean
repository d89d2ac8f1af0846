import LeasePool.Proofs.Calendar
import LeasePool.Proofs.Trimming

/-!
The text of an instant is read as that instant, in the years that are written with four digits and
outside leap seconds. Every number in the text has leading zeros up to its width and something other
than a digit behind it, so that reading takes exactly its digits.
-/
namespace LeasePool.Timestamp

open Text

/-! ### Numbers of a fixed width -/

/-- The digits of a number with leading zeros. -/
def paddedDigits (width n : Nat) : List Char :=
  List.replicate (width - n.repr.length) '0' ++ n.repr.toList

theorem toList_padded (width n : Nat) : (padded width n).toList = paddedDigits width n := by
  rw [padded, String.toList_append, String.toList_ofList, paddedDigits]

theorem isDigit_of_mem_paddedDigits {width n : Nat} {c : Char} (h : c ∈ paddedDigits width n) :
    c.isDigit = true := by
  rcases List.mem_append.mp h with h | h
  · rw [List.eq_of_mem_replicate h]
    decide
  · exact isDigit_of_mem_repr h

theorem paddedDigits_ne_nil (width n : Nat) : paddedDigits width n ≠ [] :=
  List.append_ne_nil_of_right_ne_nil _ (repr_ne_nil n)

theorem length_paddedDigits {width n : Nat} (hwidth : 0 < width) (h : n < Nat.pow 10 width) :
    (paddedDigits width n).length = width := by
  have hle : n.repr.length ≤ width := (Nat.length_repr_le_iff hwidth).mpr h
  rw [paddedDigits, List.length_append, List.length_replicate, String.length_toList]
  omega

/-- Leading zeros do not count. -/
theorem ofDigitChars_paddedDigits (width n : Nat) :
    Nat.ofDigitChars 10 (paddedDigits width n) 0 = n := by
  rw [paddedDigits, Nat.ofDigitChars_append, Nat.ofDigitChars_replicate_zero, Nat.mul_zero,
    Nat.toList_repr, Nat.ofDigitChars_ten_toDigits]

theorem readDigits_append (most : Nat) {digits rest : List Char}
    (hdigits : ∀ c ∈ digits, c.isDigit = true) (hne : digits ≠ []) (hlength : digits.length ≤ most)
    (hrest : ∀ c ∈ rest.head?, c.isDigit = false) :
    readDigits most (digits ++ rest) = some (digits, rest) := by
  have hnone : (rest.take (most - digits.length)).takeWhile Char.isDigit = [] := by
    cases rest with
    | nil => simp
    | cons c rest =>
      cases most - digits.length with
      | zero => rfl
      | succ n => simp [hrest c rfl]
  have htake : ((digits ++ rest).take most).takeWhile Char.isDigit = digits := by
    rw [List.take_append, List.take_of_length_le hlength, List.takeWhile_append_of_pos hdigits,
      hnone, List.append_nil]
  simp only [readDigits, htake, List.isEmpty_eq_false_iff.mpr hne, Bool.false_eq_true, if_false,
    List.drop_left]

/-- A number of a fixed width is read as it is. -/
theorem readNat_paddedDigits {width n : Nat} (hwidth : 0 < width) (h : n < Nat.pow 10 width)
    {rest : List Char} (hrest : ∀ c ∈ rest.head?, c.isDigit = false) :
    readNat width (paddedDigits width n ++ rest) = some (n, rest) := by
  have hread := readDigits_append width (fun c => isDigit_of_mem_paddedDigits)
    (paddedDigits_ne_nil width n) (Nat.le_of_eq (length_paddedDigits hwidth h)) hrest
  simp only [readNat, hread, Option.map_some, ofDigitChars_paddedDigits]

theorem trimStart_paddedDigits (width n : Nat) (rest : List Char) :
    trimStart (paddedDigits width n ++ rest) = paddedDigits width n ++ rest := by
  apply trimStart_eq_self
  intro c hc
  rw [List.head?_append_of_ne_nil _ (paddedDigits_ne_nil width n)] at hc
  exact isBlank_of_isDigit (isDigit_of_mem_paddedDigits (List.mem_of_mem_head? hc))

theorem readField_paddedDigits {n : Nat} (h : n < 100) {rest : List Char}
    (hrest : ∀ c ∈ rest.head?, c.isDigit = false) :
    readField (paddedDigits 2 n ++ rest) = some (n, rest) := by
  rw [readField, trimStart_paddedDigits]
  exact readNat_paddedDigits (by decide) h hrest

theorem readField_mark {n : Nat} (h : n < 100) {mark : Char} (hmark : mark.isDigit = false)
    (tail : List Char) :
    readField (paddedDigits 2 n ++ mark :: tail) = some (n, mark :: tail) :=
  readField_paddedDigits h (by rintro c ⟨⟩; exact hmark)

theorem readMark_cons {mark : Char} (h : isBlank mark = false) (rest : List Char) :
    readMark mark (mark :: rest) = some rest := by
  have htrim : trimStart (mark :: rest) = mark :: rest :=
    trimStart_eq_self (by rintro c ⟨⟩; exact h)
  simp only [readMark, htrim, if_true]

theorem readYear_paddedDigits {n : Nat} (h : n < 10000) {rest : List Char}
    (hrest : ∀ c ∈ rest.head?, c.isDigit = false) :
    readYear (paddedDigits 4 n ++ rest) = some ((n : Int), rest) := by
  have hsign : ∀ c tail, paddedDigits 4 n ++ rest = c :: tail → c.isDigit = true := by
    intro c tail heq
    have hhead := congrArg List.head? heq
    rw [List.head?_append_of_ne_nil _ (paddedDigits_ne_nil 4 n)] at hhead
    exact isDigit_of_mem_paddedDigits (List.mem_of_mem_head? hhead)
  rw [readYear, trimStart_paddedDigits]
  split
  · rename_i heq
    cases hsign _ _ heq
  · rename_i heq
    cases hsign _ _ heq
  · rw [readNat_paddedDigits (by decide) h hrest, Option.map_some]

/-! ### Fractions of a second -/

/-- The fraction of a second is read as it is written, before a zone. -/
theorem readFraction_fractionText {nanos : Nat} (h : nanos < 1000000000) {rest : List Char}
    (hrest : ∀ c ∈ rest.head?, c.isDigit = false ∧ c ≠ '.') :
    readFraction ((fractionText nanos).toList ++ rest) = some (nanos, rest) := by
  have hstop : ∀ c ∈ rest.head?, c.isDigit = false := fun c hc => (hrest c hc).1
  have hall : rest.dropWhile Char.isDigit = rest := by
    cases rest with
    | nil => rfl
    | cons c rest => simp [hstop c rfl]
  have hwritten : ∀ width n, 0 < width → width ≤ 9 → n < Nat.pow 10 width →
      readFraction (("." ++ padded width n).toList ++ rest) =
        some (n * Nat.pow 10 (9 - width), rest) := by
    intro width n hwidth hmost hn
    have hlength := length_paddedDigits hwidth hn
    have hread := readDigits_append 9 (fun c => isDigit_of_mem_paddedDigits)
      (paddedDigits_ne_nil width n) (by omega) hstop
    rw [String.toList_append, toList_padded]
    show readFraction ('.' :: (paddedDigits width n ++ rest)) = _
    simp only [readFraction, hread, Option.map_some, ofDigitChars_paddedDigits, hlength, hall]
  unfold fractionText
  split
  · rename_i hzero
    rw [hzero, String.toList_empty, List.nil_append]
    cases rest with
    | nil => rfl
    | cons c rest =>
      have hpoint : c ≠ '.' := (hrest c rfl).2
      simp [readFraction, hpoint]
  · split
    · rename_i hmillis
      have hless : nanos / 1000000 < 1000 := by omega
      have hwhole : nanos / 1000000 * 1000000 = nanos := by omega
      rw [hwritten 3 _ (by decide) (by decide) hless]
      show some (nanos / 1000000 * 1000000, rest) = some (nanos, rest)
      rw [hwhole]
    · split
      · rename_i hmicros
        have hless : nanos / 1000 < 1000000 := by omega
        have hwhole : nanos / 1000 * 1000 = nanos := by omega
        rw [hwritten 6 _ (by decide) (by decide) hless]
        show some (nanos / 1000 * 1000, rest) = some (nanos, rest)
        rw [hwhole]
      · rw [hwritten 9 _ (by decide) (by decide) h]
        show some (nanos * 1, rest) = some (nanos, rest)
        rw [Nat.mul_one]

/-- A fraction of a second does not begin with a digit. -/
theorem head?_fractionText_append (nanos : Nat) {rest : List Char}
    (hrest : ∀ c ∈ rest.head?, c.isDigit = false) :
    ∀ c ∈ ((fractionText nanos).toList ++ rest).head?, c.isDigit = false := by
  have hpoint : ∀ s : String, ∀ c ∈ (("." ++ s).toList ++ rest).head?, c.isDigit = false := by
    intro s c hc
    rw [String.toList_append, List.append_assoc] at hc
    cases hc
    decide
  unfold fractionText
  split
  · rwa [String.toList_empty, List.nil_append]
  · split
    · exact hpoint _
    · split <;> exact hpoint _

/-! ### Instants -/

/-- An instant in the years 0 to 9999 and outside a leap second. -/
def Common (t : Timestamp) : Prop :=
  0 ≤ (Date.ofDays (t.seconds / 86400)).year ∧ (Date.ofDays (t.seconds / 86400)).year ≤ 9999 ∧
    t.nanos < 1000000000

instance (t : Timestamp) : Decidable t.Common := inferInstanceAs (Decidable (_ ∧ _ ∧ _))

/-- The characters of a date. -/
def dateDigits (d : Date) : List Char :=
  paddedDigits 4 d.year.toNat ++ '-' :: (paddedDigits 2 d.month ++ '-' :: paddedDigits 2 d.day)

/-- The characters of a time of day, given in seconds. -/
def timeDigits (time : Nat) : List Char :=
  paddedDigits 2 (time / 3600) ++ ':' :: (paddedDigits 2 (time / 60 % 60) ++ ':' ::
    paddedDigits 2 (time % 60))

theorem readDate_dateDigits {d : Date} (hvalid : d.Valid) (hlow : 0 ≤ d.year)
    (hhigh : d.year ≤ 9999) {rest : List Char} (hrest : ∀ c ∈ rest.head?, c.isDigit = false) :
    readDate (dateDigits d ++ rest) = some (d, rest) := by
  obtain ⟨hmonth, htwelve, hday, hlast⟩ := hvalid
  have hlength : Date.daysInMonth d.year d.month ≤ 31 := by
    unfold Date.daysInMonth
    split
    · split <;> decide
    all_goals decide
  have hyearRead : ∀ tail, readYear (paddedDigits 4 d.year.toNat ++ '-' :: tail) =
      some ((d.year.toNat : Int), '-' :: tail) :=
    fun tail => readYear_paddedDigits (by omega) (by rintro c ⟨⟩; decide)
  have hmonthRead : ∀ tail, readField (paddedDigits 2 d.month ++ '-' :: tail) =
      some (d.month, '-' :: tail) :=
    readField_mark (by omega) (by decide)
  have hdayRead := readField_paddedDigits (n := d.day) (by omega) hrest
  have hmark : ∀ tail, readMark '-' ('-' :: tail) = some tail := readMark_cons (by decide)
  have hyear : (d.year.toNat : Int) = d.year := Int.toNat_of_nonneg hlow
  have hrange : Date.yearInRange d.year = true := by
    simp only [Date.yearInRange, Bool.and_eq_true, decide_eq_true_eq]
    omega
  rw [dateDigits, List.append_assoc, List.cons_append, List.append_assoc, List.cons_append]
  simp only [readDate, hyearRead, hmark, hmonthRead, hdayRead, bind, Option.bind, hyear]
  exact if_pos ⟨⟨hmonth, htwelve, hday, hlast⟩, hrange⟩

theorem readTime_timeDigits {time nanos : Nat} (htime : time < 86400) (hnanos : nanos < 1000000000)
    {rest : List Char} (hrest : ∀ c ∈ rest.head?, c.isDigit = false ∧ c ≠ '.') :
    readTime (timeDigits time ++ ((fractionText nanos).toList ++ rest)) =
      some (time, nanos, rest) := by
  have hstop := head?_fractionText_append nanos fun c hc => (hrest c hc).1
  have hhourRead : ∀ tail, readField (paddedDigits 2 (time / 3600) ++ ':' :: tail) =
      some (time / 3600, ':' :: tail) :=
    readField_mark (by omega) (by decide)
  have hminuteRead : ∀ tail, readField (paddedDigits 2 (time / 60 % 60) ++ ':' :: tail) =
      some (time / 60 % 60, ':' :: tail) :=
    readField_mark (by omega) (by decide)
  have hsecondRead := readField_paddedDigits (n := time % 60) (by omega) hstop
  have hmark : ∀ tail, readMark ':' (':' :: tail) = some tail := readMark_cons (by decide)
  have hwithin : ¬ (23 < time / 3600 ∨ 59 < time / 60 % 60 ∨ 60 < time % 60) := by omega
  have hleap : ¬ time % 60 = 60 := by omega
  have hsum : time / 3600 * 3600 + time / 60 % 60 * 60 + time % 60 = time := by omega
  rw [timeDigits, List.append_assoc, List.cons_append, List.append_assoc, List.cons_append]
  simp only [readTime, hhourRead, hmark, hminuteRead, hsecondRead,
    readFraction_fractionText hnanos hrest, bind, Option.bind, hwithin, hleap, if_false, hsum]

/-- The text of an instant, character by character. -/
theorem toList_text {t : Timestamp} (h : t.Common) :
    t.text.toList = dateDigits (Date.ofDays (t.seconds / 86400)) ++ 'T' ::
      (timeDigits (t.seconds % 86400).toNat ++ ((fractionText t.nanos).toList ++ ['Z'])) := by
  obtain ⟨hlow, hhigh, hnanos⟩ := h
  have hyear : yearText (Date.ofDays (t.seconds / 86400)).year =
      padded 4 (Date.ofDays (t.seconds / 86400)).year.toNat := if_pos ⟨hlow, hhigh⟩
  have hnoLeap : t.nanos / 1000000000 = 0 := Nat.div_eq_of_lt hnanos
  have hfraction : t.nanos % 1000000000 = t.nanos := Nat.mod_eq_of_lt hnanos
  simp only [text, textWith, hyear, hnoLeap, hfraction, Nat.add_zero, String.toList_append,
    toList_padded, dateDigits, timeDigits]
  simp

/-- The text of an instant is read as the instant. -/
theorem parse?_text {t : Timestamp} (h : t.Common) : parse? t.text = some t := by
  have htext := toList_text h
  obtain ⟨hlow, hhigh, hnanos⟩ := h
  have hdays : (Date.ofDays (t.seconds / 86400)).toDays = t.seconds / 86400 := Date.toDays_ofDays _
  have hdate : ∀ tail, readDate (dateDigits (Date.ofDays (t.seconds / 86400)) ++ 'T' :: tail) =
      some (Date.ofDays (t.seconds / 86400), 'T' :: tail) := by
    intro tail
    apply readDate_dateDigits (Date.valid_ofDays _) hlow hhigh
    rintro c ⟨⟩
    decide
  have htime : readTime (timeDigits (t.seconds % 86400).toNat ++
      ((fractionText t.nanos).toList ++ ['Z'])) =
        some ((t.seconds % 86400).toNat, t.nanos, ['Z']) := by
    apply readTime_timeDigits (by omega) hnanos
    rintro c ⟨⟩
    decide
  have hzone : readOffset (trimStart ['Z']) = some (0, []) := by decide
  have hseconds :
      t.seconds / 86400 * 86400 + ((t.seconds % 86400).toNat : Int) - 0 = t.seconds := by
    omega
  have hrange : Date.yearInRange (Date.ofDays (t.seconds / 86400)).year = true := by
    simp only [Date.yearInRange, Bool.and_eq_true, decide_eq_true_eq]
    omega
  simp only [parse?, htext, hdate, htime, hzone, bind, Option.bind, hdays, hseconds]
  exact if_pos ⟨rfl, hrange⟩

end LeasePool.Timestamp
