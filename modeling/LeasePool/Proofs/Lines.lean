import LeasePool.Config.Document
import LeasePool.Proofs.Trimming

/-!
Scanning a file that is written line by line. Such a file is made of blank lines, comments,
headings and entries, each in the one form that the writer uses. When no name, key or value holds a
character that the scanner gives a meaning to, scanning finds the headings and entries of the
lines, in their order.
-/
namespace LeasePool.Config

open Text Document

/-! ### Lines -/

/-- A line as it is written. -/
inductive Line where
  | blank
  | comment (text : String)
  | heading (name : String)
  | entry (key value : String)

namespace Line

def written : Line → String
  | blank => ""
  | comment s => ";" ++ s
  | heading name => "[" ++ name ++ "]"
  | entry key value => key ++ " = " ++ value

/-- The characters of a line. -/
def text : Line → List Char
  | blank => []
  | comment s => ';' :: s.toList
  | heading name => '[' :: (name.toList ++ [']'])
  | entry key value => key.toList ++ (' ' :: '=' :: ' ' :: value.toList)

theorem toList_written (l : Line) : l.written.toList = l.text := by
  cases l <;> simp [written, text]

/-- What scanning makes of a line. -/
def items : Line → Document
  | heading name => [.heading name]
  | entry key value => [.entry key value]
  | _ => []

end Line

/-- A character that opens something when it begins a line. -/
def opensLine (c : Char) : Bool :=
  c = ';' || c = '#' || c = '[' || c = '=' || c = ':'

/-- A value that stands for itself: nothing in it is trimmed, quoted, escaped or broken off. -/
structure Verbatim (s : String) : Prop where
  tight : Tight s.toList
  inside : ∀ c ∈ s.toList, c ≠ '\\' ∧ c ≠ '\r' ∧ c ≠ '\n'
  unquoted : ∀ c ∈ s.toList.head?, c ≠ '"' ∧ c ≠ '\''

instance (s : String) : Decidable (Verbatim s) :=
  decidable_of_iff (_ ∧ _ ∧ _) ⟨fun h => ⟨h.1, h.2.1, h.2.2⟩, fun h => ⟨h.1, h.2, h.3⟩⟩

theorem verbatim_empty : Verbatim "" :=
  ⟨by simp [Tight], by simp, by simp⟩

/-- A key that stands for itself. -/
structure KeyLike (s : String) : Prop where
  nonempty : s.toList ≠ []
  tight : Tight s.toList
  inside : ∀ c ∈ s.toList, c ≠ '\\' ∧ c ≠ '=' ∧ c ≠ ':'
  plain : ∀ c ∈ s.toList.head?, opensLine c = false

instance (s : String) : Decidable (KeyLike s) :=
  decidable_of_iff (_ ∧ _ ∧ _ ∧ _)
    ⟨fun h => ⟨h.1, h.2.1, h.2.2.1, h.2.2.2⟩, fun h => ⟨h.1, h.2, h.3, h.4⟩⟩

/-- A name that stands for itself. -/
structure NameLike (s : String) : Prop where
  tight : Tight s.toList
  inside : ∀ c ∈ s.toList, c ≠ '\\' ∧ c ≠ ']'

instance (s : String) : Decidable (NameLike s) :=
  decidable_of_iff (_ ∧ _) ⟨fun h => ⟨h.1, h.2⟩, fun h => ⟨h.1, h.2⟩⟩

/-- The line is read as it was meant. -/
def Line.Legible : Line → Prop
  | blank => True
  | comment s => '\n' ∉ s.toList
  | heading name => NameLike name
  | entry key value => KeyLike key ∧ Verbatim value

instance : (l : Line) → Decidable l.Legible
  | .blank => inferInstanceAs (Decidable True)
  | .comment _ => inferInstanceAs (Decidable (_ ∉ _))
  | .heading name => inferInstanceAs (Decidable (NameLike name))
  | .entry _ _ => inferInstanceAs (Decidable (_ ∧ _))

/-- A comment that is written out is checked on its characters. -/
theorem legible_comment {s : List Char} (h : '\n' ∉ s) :
    (Line.comment (String.ofList s)).Legible := by
  rwa [Line.Legible, String.toList_ofList]

/-- The text of a file with the given lines, each of them ended. -/
def textOf (ls : List Line) : List Char := ls.flatMap fun l => l.text ++ ['\n']

@[simp] theorem textOf_nil : textOf [] = [] := rfl

@[simp] theorem textOf_cons (l : Line) (ls : List Line) :
    textOf (l :: ls) = l.text ++ '\n' :: textOf ls := by
  simp [textOf]

theorem textOf_append (ls ms : List Line) : textOf (ls ++ ms) = textOf ls ++ textOf ms := by
  simp [textOf]

/-! ### Places in a text -/

/-- The cursor stands on the first character of a text. -/
def StandsOn (text : List Char) (c : Cursor) : Prop :=
  ∃ line column, c = .onto text line column

/-- The cursor stands on the first character of a text that begins a line. -/
def BeginsLine (text : List Char) (c : Cursor) : Prop := ∃ line, c = .onto text line 0

theorem BeginsLine.standsOn {text : List Char} {c : Cursor} (h : BeginsLine text c) :
    StandsOn text c := by
  obtain ⟨line, rfl⟩ := h
  exact ⟨line, 0, rfl⟩

theorem BeginsLine.column_le {text : List Char} {c : Cursor} (h : BeginsLine text c) :
    c.column ≤ 1 := by
  obtain ⟨line, rfl⟩ := h
  cases text with
  | nil => exact Nat.zero_le 1
  | cons a rest =>
    by_cases ha : a = '\n' <;> simp [Cursor.onto, ha]

namespace StandsOn

theorem text_eq {text : List Char} {c : Cursor} (h : StandsOn text c) : c.text = text := by
  obtain ⟨line, column, rfl⟩ := h
  cases text with
  | nil => rfl
  | cons a rest =>
    by_cases ha : a = '\n' <;> simp [Cursor.onto, ha]

theorem here?_eq {text : List Char} {c : Cursor} (h : StandsOn text c) : c.here? = text.head? := by
  rw [Cursor.here?, h.text_eq]

theorem next {a : Char} {text : List Char} {c : Cursor} (h : StandsOn (a :: text) c) :
    StandsOn text c.next := by
  refine ⟨c.line, c.column, ?_⟩
  rw [Cursor.next, h.text_eq, List.tail_cons]

/-- A line end is column 0, so that the next line begins right after it. -/
theorem next_of_lineEnd {text : List Char} {c : Cursor} (h : StandsOn ('\n' :: text) c) :
    BeginsLine text c.next := by
  obtain ⟨line, column, rfl⟩ := h
  exact ⟨line + 1, rfl⟩

/-! ### Steps over a stretch of text -/

/-- Skipping stops before the first character that is not to be skipped. -/
theorem skipUpTo {p : Char → Bool} {s text : List Char} (hs : ∀ a ∈ s, p a = true)
    (hstop : ∀ a ∈ text.head?, p a = false) {n : Nat} (hn : s.length ≤ n) {c : Cursor}
    (h : StandsOn (s ++ text) c) : StandsOn text (c.skipUpTo p n) := by
  induction s generalizing n c with
  | nil =>
    cases n with
    | zero => exact h
    | succ n =>
      rw [List.nil_append] at h
      cases text with
      | nil => simpa only [Cursor.skipUpTo, h.text_eq] using h
      | cons a rest =>
        have ha : p a = false := hstop a rfl
        simpa only [Cursor.skipUpTo, h.text_eq, ha, Bool.false_eq_true, if_false] using h
  | cons a s ih =>
    cases n with
    | zero => exact absurd hn (Nat.not_succ_le_zero s.length)
    | succ n =>
      have ha : p a = true := hs a List.mem_cons_self
      have htext : c.text = a :: (s ++ text) := h.text_eq
      have hnext : StandsOn (s ++ text) c.next := h.next
      have hrest := ih (fun b hb => hs b (List.mem_cons_of_mem a hb))
        (Nat.le_of_succ_le_succ hn) hnext
      simpa only [Cursor.skipUpTo, htext, ha, if_true] using hrest

theorem skip {p : Char → Bool} {s text : List Char} (hs : ∀ a ∈ s, p a = true)
    (hstop : ∀ a ∈ text.head?, p a = false) {c : Cursor} (h : StandsOn (s ++ text) c) :
    StandsOn text (c.skip p) := by
  apply h.skipUpTo hs hstop
  rw [h.text_eq, List.length_append]
  omega

/-- Reading up to an end mark gives a stretch without marks and backslashes as it is. -/
theorem readUntilWithin {wanted : Ending} {s text : List Char}
    (hs : ∀ a ∈ s, some a ∉ wanted.marks ∧ a ≠ '\\') (hstop : text.head? ∈ wanted.marks)
    {n : Nat} (hn : s.length < n) {c : Cursor} (h : StandsOn (s ++ text) c) :
    ∃ c', readUntilWithin wanted n c = .ok (s, c') ∧ StandsOn text c' := by
  induction s generalizing n c with
  | nil =>
    obtain ⟨n, rfl⟩ := Nat.exists_eq_add_of_lt hn
    refine ⟨c, ?_, h⟩
    have hmark : c.here? ∈ wanted.marks := by
      rw [h.here?_eq]
      exact hstop
    simp only [Config.readUntilWithin, hmark, if_true]
  | cons a s ih =>
    obtain ⟨n, rfl⟩ := Nat.exists_eq_succ_of_ne_zero (Nat.ne_of_gt (Nat.zero_lt_of_lt hn))
    obtain ⟨hmark, hslash⟩ := hs a List.mem_cons_self
    have hhere : c.here? = some a := h.here?_eq
    have hnext : StandsOn (s ++ text) c.next := h.next
    obtain ⟨c', hread, hc'⟩ := ih (fun b hb => hs b (List.mem_cons_of_mem a hb))
      (Nat.lt_of_succ_lt_succ hn) hnext
    refine ⟨c', ?_, hc'⟩
    simp [Config.readUntilWithin, hhere, hmark, hread, Except.map]

theorem readUntil {wanted : Ending} {s text : List Char}
    (hs : ∀ a ∈ s, some a ∉ wanted.marks ∧ a ≠ '\\') (hstop : text.head? ∈ wanted.marks)
    {c : Cursor} (h : StandsOn (s ++ text) c) :
    ∃ c', readUntil wanted c = .ok (s, c') ∧ StandsOn text c' := by
  apply h.readUntilWithin hs hstop
  rw [h.text_eq, List.length_append]
  omega

/-! ### White space between lines -/

/-- Nothing is skipped before a character that is not blank. -/
theorem skipLayout_eq_self {text : List Char} {c : Cursor} (h : StandsOn text c)
    (hhead : ∀ a ∈ text.head?, isBlank a = false) : skipLayout c = c := by
  cases text with
  | nil => simp [skipLayout, h.text_eq, skipLayoutWithin]
  | cons a rest =>
    have hblank : isBlank a = false := hhead a rfl
    have hend : isLineEnd a = false := by
      rw [Bool.eq_false_iff]
      intro hend
      simp only [isLineEnd, Bool.or_eq_true, decide_eq_true_eq] at hend
      rcases hend with rfl | rfl <;> exact absurd hblank (by decide)
    simp [skipLayout, h.text_eq, skipLayoutWithin, hblank, hend]

/-- A line end is skipped when the next line does not begin with a gap. -/
theorem skipLayout_lineEnd {text : List Char} {c : Cursor} (h : StandsOn ('\n' :: text) c)
    (hhead : ∀ a ∈ text.head?, isGap a = false) : skipLayout c = skipLayout c.next := by
  have hnext : StandsOn text c.next := h.next
  have hgap : c.next.here?.any isGap = false := by
    rw [hnext.here?_eq]
    cases text with
    | nil => rfl
    | cons a rest => exact hhead a rfl
  have hend : isLineEnd '\n' = true := rfl
  simp only [skipLayout, h.text_eq, hnext.text_eq, List.length_cons, skipLayoutWithin, hend,
    if_true, hgap, Bool.false_eq_true, if_false]

end StandsOn

theorem not_isGap_of_not_isBlank {a : Char} (h : isBlank a = false) : isGap a = false := by
  rw [Bool.eq_false_iff]
  intro hgap
  simp only [isGap, Bool.or_eq_true, decide_eq_true_eq] at hgap
  rcases hgap with rfl | rfl <;> exact absurd h (by decide)

theorem not_isLineEnd_of_not_isBlank {a : Char} (h : isBlank a = false) : isLineEnd a = false := by
  rw [Bool.eq_false_iff]
  intro hend
  simp only [isLineEnd, Bool.or_eq_true, decide_eq_true_eq] at hend
  rcases hend with rfl | rfl <;> exact absurd h (by decide)

/-- A line that is not blank begins with a character that is not blank. -/
theorem Line.Legible.head_not_isBlank {l : Line} (h : l.Legible) :
    ∀ a ∈ l.text.head?, isBlank a = false := by
  cases l with
  | blank =>
    intro a ha
    cases ha
  | comment s =>
    rintro a ⟨⟩
    decide
  | heading name =>
    rintro a ⟨⟩
    decide
  | entry key value =>
    intro a ha
    rw [Line.text, List.head?_append_of_ne_nil _ h.1.nonempty] at ha
    exact h.1.tight.1 a ha

/-- What stands at the beginning of a line is a line end, or it is not blank. -/
theorem head_textOf {ls : List Line} (h : ∀ l ∈ ls, l.Legible) :
    ∀ a ∈ (textOf ls).head?, a = '\n' ∨ isBlank a = false := by
  cases ls with
  | nil =>
    intro a ha
    cases ha
  | cons l ls =>
    intro a ha
    have hl := (h l List.mem_cons_self).head_not_isBlank
    rw [textOf_cons] at ha
    rcases List.eq_nil_or_concat l.text with hnil | ⟨_, _, hcons⟩
    · rw [hnil] at ha
      exact .inl (Option.some.inj ha).symm
    · rw [List.head?_append_of_ne_nil _ (by simp [hcons])] at ha
      exact .inr (hl a ha)

theorem head_textOf_not_isGap {ls : List Line} (h : ∀ l ∈ ls, l.Legible) :
    ∀ a ∈ (textOf ls).head?, isGap a = false := by
  intro a ha
  rcases head_textOf h a ha with rfl | hblank
  · rfl
  · exact not_isGap_of_not_isBlank hblank

/-! ### Rounds on a line -/

/-- After a line end the scanner is where it would be at the beginning of the next line. -/
theorem StandsOn.skipLayout_lines {ls : List Line} (hls : ∀ l ∈ ls, l.Legible) {c : Cursor}
    (h : StandsOn ('\n' :: textOf ls) c) :
    ∃ c', skipLayout c = skipLayout c' ∧ BeginsLine (textOf ls) c' :=
  ⟨c.next, h.skipLayout_lineEnd (head_textOf_not_isGap hls), h.next_of_lineEnd⟩

theorem BeginsLine.skipComment {s text : List Char} (hs : '\n' ∉ s) {c : Cursor}
    (h : StandsOn (s ++ '\n' :: text) c) : BeginsLine text (skipComment c) := by
  have hskip : StandsOn ('\n' :: text) (c.skip (· ≠ '\n')) := by
    apply h.skip
    · intro a ha
      exact decide_eq_true (ne_of_mem_of_not_mem ha hs)
    · rintro a ⟨⟩
      rfl
  exact hskip.next_of_lineEnd

/-- The round on a comment. -/
theorem round_comment (key : String) {s : String} (hs : '\n' ∉ s.toList) {text : List Char}
    {c : Cursor} (h : BeginsLine (';' :: s.toList ++ '\n' :: text) c) :
    ∃ c', Document.round key c ';' = .ok ⟨[], key, skipLayout c'⟩ ∧ BeginsLine text c' := by
  have hcolumn : ¬ 1 < c.column := Nat.not_lt_of_le h.column_le
  have hinside : '\n' ∉ ';' :: s.toList := by
    intro hmem
    rcases List.mem_cons.mp hmem with heq | hmem
    · cases heq
    · exact hs hmem
  refine ⟨skipComment c, ?_, BeginsLine.skipComment hinside h.standsOn⟩
  simp [Document.round, hcolumn]

/-- The round on a heading. -/
theorem round_heading (key : String) {name : String} (hname : NameLike name) {text : List Char}
    {c : Cursor} (h : StandsOn ('[' :: (name.toList ++ ']' :: text)) c) :
    ∃ c', Document.round key c '[' = .ok ⟨[.heading name], key, skipLayout c'⟩ ∧
      StandsOn text c' := by
  have hinside : ∀ a ∈ name.toList, some a ∉ Ending.bracket.marks ∧ a ≠ '\\' := by
    intro a ha
    obtain ⟨hslash, hbracket⟩ := hname.inside a ha
    exact ⟨by simpa [Ending.marks] using hbracket, hslash⟩
  obtain ⟨c', hread, hc'⟩ := h.next.readUntil hinside (by simp [Ending.marks])
  refine ⟨c'.next, ?_, hc'.next⟩
  simp [Document.round, headingRound, readHeading, hread, hname.tight.trim_eq]

/-- The round on a key. -/
theorem round_key {key : String} (hkey : KeyLike key) {text : List Char} {c : Cursor}
    (h : StandsOn (key.toList ++ ' ' :: '=' :: text) c) :
    ∃ a c', c.here? = some a ∧ Document.round "" c a = .ok ⟨[], key, c'⟩ ∧
      StandsOn ('=' :: text) c' := by
  obtain ⟨a, rest, hcons⟩ := List.exists_cons_of_ne_nil hkey.nonempty
  have hhead : a ∈ key.toList.head? := by simp [hcons]
  have hblank : isBlank a = false := hkey.tight.1 a hhead
  have hplain : opensLine a = false := hkey.plain a hhead
  have hinside : ∀ b ∈ key.toList ++ [' '], some b ∉ Ending.separator.marks ∧ b ≠ '\\' := by
    intro b hb
    rcases List.mem_append.mp hb with hb | hb
    · obtain ⟨hslash, hequal, hcolon⟩ := hkey.inside b hb
      exact ⟨by simp [Ending.marks, hequal, hcolon], hslash⟩
    · rw [List.mem_singleton.mp hb]
      decide
  have hstands : StandsOn ((key.toList ++ [' ']) ++ '=' :: text) c := by
    simpa only [List.append_assoc, List.singleton_append] using h
  obtain ⟨c', hread, hc'⟩ := hstands.readUntil hinside (by simp [Ending.marks])
  have htrim : trim (key.toList ++ [' ']) = key.toList :=
    hkey.tight.trim_append_blanks hkey.nonempty (by decide)
  have hstay : skipLayout c' = c' := hc'.skipLayout_eq_self (by rintro b ⟨⟩; decide)
  refine ⟨a, c', ?_, ?_, hc'⟩
  · rw [h.here?_eq, hcons, List.cons_append, List.head?_cons]
  · simp only [opensLine, Bool.or_eq_false_iff, decide_eq_false_iff_not] at hplain
    simp [Document.round, hplain, not_isGap_of_not_isBlank hblank,
      not_isLineEnd_of_not_isBlank hblank, readKey, hread, htrim, hstay]

/-- A value is read as it is written. -/
theorem StandsOn.readValue {value : String} (hvalue : Verbatim value) {text : List Char}
    {c : Cursor} (h : StandsOn ('=' :: ' ' :: (value.toList ++ '\n' :: text)) c) :
    ∃ c', Document.readValue c = .ok (value, c') ∧ StandsOn ('\n' :: text) c' := by
  have hstart : StandsOn (value.toList ++ '\n' :: text)
      (c.next.skip fun a => isBlank a && !isLineEnd a) := by
    apply StandsOn.skip (s := [' ']) _ _ h.next
    · intro a ha
      rw [List.mem_singleton.mp ha]
      decide
    · intro a ha
      cases hcase : value.toList with
      | nil =>
        rw [hcase] at ha
        cases ha
        decide
      | cons b rest =>
        rw [hcase] at ha
        cases ha
        have hblank : isBlank a = false := hvalue.tight.1 a (by simp [hcase])
        simp [hblank]
  have hinside : ∀ a ∈ value.toList, some a ∉ Ending.line.marks ∧ a ≠ '\\' := by
    intro a ha
    obtain ⟨hslash, hreturn, hend⟩ := hvalue.inside a ha
    exact ⟨by simp [Ending.marks, hreturn, hend], hslash⟩
  obtain ⟨c', hread, hc'⟩ := hstart.readUntil hinside (by simp [Ending.marks])
  refine ⟨c', ?_, hc'⟩
  have hhere := hstart.here?_eq
  obtain ⟨a, ha, hdouble, hsingle⟩ : ∃ a, (value.toList ++ '\n' :: text).head? = some a ∧
      a ≠ '"' ∧ a ≠ '\'' := by
    cases hcase : value.toList with
    | nil => exact ⟨'\n', rfl, by decide, by decide⟩
    | cons b rest => exact ⟨b, rfl, hvalue.unquoted b (by simp [hcase])⟩
  rw [ha] at hhere
  simp [Document.readValue, readParts, hhere, hread, hvalue.tight.trim_eq]

/-- The round on a value. -/
theorem round_value {key value : String} (hkey : key ≠ "") (hvalue : Verbatim value)
    {text : List Char} {c : Cursor}
    (h : StandsOn ('=' :: ' ' :: (value.toList ++ '\n' :: text)) c) :
    ∃ c', Document.round key c '=' = .ok ⟨[.entry key value], "", skipLayout c'⟩ ∧
      StandsOn ('\n' :: text) c' := by
  obtain ⟨c', hread, hc'⟩ := h.readValue hvalue
  refine ⟨c', ?_, hc'⟩
  simp [Document.round, hkey, hread]

/-! ### Scanning all lines -/

/-- From the beginning of a line on, scanning finds the items of the lines. -/
theorem rounds_lines {ls : List Line} (h : ∀ l ∈ ls, l.Legible) {n : Nat}
    (hn : (textOf ls).length < n) {c : Cursor} (hc : BeginsLine (textOf ls) c) :
    rounds n "" (skipLayout c) = .ok (ls.flatMap Line.items) := by
  induction ls generalizing n c with
  | nil =>
    obtain ⟨n, rfl⟩ := Nat.exists_eq_add_of_lt hn
    have hstay : skipLayout c = c := hc.standsOn.skipLayout_eq_self (by rintro a ⟨⟩)
    have hhere : c.here? = none := hc.standsOn.here?_eq
    rw [hstay]
    simp [rounds, hhere]
  | cons l ls ih =>
    have hl : l.Legible := h l List.mem_cons_self
    have hls : ∀ l ∈ ls, l.Legible := fun m hm => h m (List.mem_cons_of_mem l hm)
    rw [textOf_cons] at hc hn
    rw [List.length_append, List.length_cons] at hn
    obtain ⟨n, rfl⟩ : ∃ m, n = m + 1 := Nat.exists_eq_succ_of_ne_zero (by omega)
    cases l with
    | blank =>
      have hnext := hc.standsOn.skipLayout_lineEnd (head_textOf_not_isGap hls)
      rw [hnext]
      exact ih hls (by omega) hc.standsOn.next_of_lineEnd
    | comment s =>
      have hstay : skipLayout c = c :=
        hc.standsOn.skipLayout_eq_self (by rintro a ⟨⟩; decide)
      have hhere : c.here? = some ';' := hc.standsOn.here?_eq
      obtain ⟨c', hround, hc'⟩ := round_comment "" hl hc
      have hrest := ih hls (n := n) (by omega) hc'
      rw [hstay]
      simp [rounds, hhere, hround, hrest, Line.items]
    | heading name =>
      have hopen : StandsOn ('[' :: (name.toList ++ ']' :: '\n' :: textOf ls)) c := by
        simpa only [Line.text, List.cons_append, List.append_assoc, List.nil_append]
          using hc.standsOn
      have hstay : skipLayout c = c := hopen.skipLayout_eq_self (by rintro a ⟨⟩; decide)
      have hhere : c.here? = some '[' := hopen.here?_eq
      obtain ⟨c', hround, hc'⟩ := round_heading "" hl hopen
      obtain ⟨c'', hskip, hc''⟩ := hc'.skipLayout_lines hls
      have hrest := ih hls (n := n) (by omega) hc''
      rw [hstay]
      simp [rounds, hhere, hround, hskip, hrest, Line.items]
    | entry key value =>
      obtain ⟨hkey, hvalue⟩ := hl
      have hfirst : StandsOn (key.toList ++ ' ' :: '=' :: ' ' ::
          (value.toList ++ '\n' :: textOf ls)) c := by
        simpa only [Line.text, List.cons_append, List.append_assoc] using hc.standsOn
      have hstay : skipLayout c = c := by
        apply hfirst.skipLayout_eq_self
        intro a ha
        rw [List.head?_append_of_ne_nil _ hkey.nonempty] at ha
        exact hkey.tight.1 a ha
      have hne : key ≠ "" := by
        rintro rfl
        exact hkey.nonempty rfl
      obtain ⟨a, c₁, hhere, hkeyRound, hc₁⟩ := round_key hkey hfirst
      have hequal : c₁.here? = some '=' := hc₁.here?_eq
      obtain ⟨c₂, hvalueRound, hc₂⟩ := round_value hne hvalue hc₁
      obtain ⟨c₃, hskip, hc₃⟩ := hc₂.skipLayout_lines hls
      -- an entry takes two rounds, and its text is long enough to pay for both
      simp only [Line.text, List.length_append, List.length_cons] at hn
      obtain ⟨n, rfl⟩ : ∃ m, n = m + 1 := Nat.exists_eq_succ_of_ne_zero (by omega)
      have hrest := ih hls (n := n) (by omega) hc₃
      rw [hstay]
      simp [rounds, hhere, hkeyRound, hequal, hvalueRound, hskip, hrest, Line.items]

/-- Scanning a file of legible lines that does not begin with a blank one finds their items. -/
theorem scan_lines {l : Line} {ls : List Line} (hl : l.text ≠ []) (h : ∀ m ∈ l :: ls, m.Legible) :
    scan (textOf (l :: ls)) = .ok ((l :: ls).flatMap Line.items) := by
  have hstart : BeginsLine (textOf (l :: ls)) (.start (textOf (l :: ls))) := ⟨0, rfl⟩
  have hstay : skipLayout (.start (textOf (l :: ls))) = .start (textOf (l :: ls)) := by
    apply hstart.standsOn.skipLayout_eq_self
    intro a ha
    rw [textOf_cons, List.head?_append_of_ne_nil _ hl] at ha
    exact (h l List.mem_cons_self).head_not_isBlank a ha
  have hrounds := rounds_lines h (Nat.lt_succ_self (textOf (l :: ls)).length) hstart
  rw [hstay] at hrounds
  exact hrounds

end LeasePool.Config
