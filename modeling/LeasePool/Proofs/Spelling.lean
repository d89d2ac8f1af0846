import LeasePool.Json.Reading
import LeasePool.Json.Text
import LeasePool.Proofs.Trimming

/-!
Reading JSON text that was written. A value is written as the text of one tree, and reading any text
that begins with it gives that tree and the rest, whatever characters the strings in it hold and
however deep it goes.
-/
namespace LeasePool.Json

open Text Json.Tree

/-! ### Strings -/

/-- The piece that a written character is read as. -/
def pieceOf (c : Char) : Piece :=
  if c.toNat < 32 ∧ c ≠ '\n' ∧ c ≠ '\r' ∧ c ≠ '\t' ∧ c ≠ '\x08' ∧ c ≠ '\x0c' then .unit c.toNat
  else .char c

theorem unit?_hexDigit {n : Nat} (h : n < 32) :
    unit? '0' '0' (hexDigit (n / 16)) (hexDigit (n % 16)) = some n := by
  have hall : ∀ n < 32, unit? '0' '0' (hexDigit (n / 16)) (hexDigit (n % 16)) = some n := by
    decide
  exact hall n h

/-- The escapes of one letter, with the characters they stand for. -/
def letterEscapes : List (Char × Char) :=
  [('"', '"'), ('\\', '\\'), ('n', '\n'), ('r', '\r'), ('t', '\t'), ('b', '\x08'), ('f', '\x0c')]

theorem letterEscapes_spec : ∀ p ∈ letterEscapes, p.1 ≠ 'u' ∧ letterEscape? p.1 = some p.2 ∧
    escape p.2 = ['\\', p.1] ∧ pieceOf p.2 = .char p.2 := by
  decide

/-- Reading a written character gives its piece and goes on behind it. -/
theorem readPieces_escape (c : Char) {s rest : List Char} {pieces : List Piece}
    (h : readPieces s = some (pieces, rest)) :
    readPieces (escape c ++ s) = some (pieceOf c :: pieces, rest) := by
  by_cases hletter : ∃ p ∈ letterEscapes, p.2 = c
  · obtain ⟨p, hp, rfl⟩ := hletter
    obtain ⟨hu, hread, hescape, hpiece⟩ := letterEscapes_spec p hp
    rw [hescape, hpiece]
    simp [readPieces, hu, hread, h]
  have hplain : c ≠ '"' ∧ c ≠ '\\' ∧ c ≠ '\n' ∧ c ≠ '\r' ∧ c ≠ '\t' ∧ c ≠ '\x08' ∧ c ≠ '\x0c' := by
    refine ⟨?_, ?_, ?_, ?_, ?_, ?_, ?_⟩ <;> rintro rfl <;> exact hletter (by decide)
  by_cases hcontrol : c.toNat < 32
  · have hescape : escape c =
        ['\\', 'u', '0', '0', hexDigit (c.toNat / 16), hexDigit (c.toNat % 16)] := by
      simp [escape, hplain, hcontrol]
    have hpiece : pieceOf c = .unit c.toNat := by
      simp [pieceOf, hplain, hcontrol]
    rw [hescape, hpiece]
    simp [readPieces, unit?_hexDigit hcontrol, h]
  · have hescape : escape c = [c] := by
      simp [escape, hplain, hcontrol]
    have hpiece : pieceOf c = .char c := by
      simp [pieceOf, hcontrol]
    obtain ⟨hquote, hslash, -⟩ := hplain
    rw [hescape, hpiece]
    simp [readPieces, hslash, hcontrol, h]

theorem readPieces_escapeAll (s rest : List Char) :
    readPieces (escapeAll s ++ '"' :: rest) = some (s.map pieceOf, rest) := by
  induction s with
  | nil => simp [escapeAll, readPieces]
  | cons c s ih =>
    rw [escapeAll, List.append_assoc, List.map_cons]
    exact readPieces_escape c ih

/-- A unit that stands for a control character stands for itself. -/
theorem joinPieces_unit {n : Nat} (h : n < 32) (pieces : List Piece) :
    joinPieces (.unit n :: pieces) = (joinPieces pieces).map (Char.ofNat n :: ·) := by
  have hhigh : isHighUnit n = false := by
    simp only [isHighUnit, Bool.and_eq_false_iff, decide_eq_false_iff_not]
    omega
  have hlow : isLowUnit n = false := by
    simp only [isLowUnit, Bool.and_eq_false_iff, decide_eq_false_iff_not]
    omega
  cases pieces with
  | nil => simp [joinPieces, hhigh, hlow]
  | cons p rest => cases p <;> simp [joinPieces, hhigh, hlow]

theorem joinPieces_map_pieceOf (s : List Char) : joinPieces (s.map pieceOf) = some s := by
  induction s with
  | nil => rfl
  | cons c s ih =>
    rw [List.map_cons, pieceOf]
    split
    · rename_i hcontrol
      rw [joinPieces_unit hcontrol.1, ih, Option.map_some, Char.ofNat_toNat]
    · rw [joinPieces, ih, Option.map_some]

/-- A written string is read as it is. -/
theorem readString_escapeAll (s : String) (rest : List Char) :
    readString (escapeAll s.toList ++ '"' :: rest) = some (some s, rest) := by
  simp [readString, readPieces_escapeAll, joinPieces_map_pieceOf]

/-! ### Numbers -/

/-- A text that a number may stand before. -/
def EndsNumber (rest : List Char) : Prop :=
  ∀ c ∈ rest.head?, c.isDigit = false ∧ c ≠ '.' ∧ c ≠ 'e' ∧ c ≠ 'E'

theorem endsNumber_nil : EndsNumber [] := by
  rintro c ⟨⟩

theorem endsNumber_cons {c : Char} (h : c.isDigit = false ∧ c ≠ '.' ∧ c ≠ 'e' ∧ c ≠ 'E')
    (rest : List Char) : EndsNumber (c :: rest) := by
  rintro a ⟨⟩
  exact h

namespace Numeral

/-- An integer as it is written. -/
def ofInt (n : Int) : Numeral := ⟨decide (n < 0), n.natAbs.repr.toList, none, none⟩

end Numeral

theorem digitsOf_append {digits rest : List Char} (h : ∀ c ∈ digits, c.isDigit = true)
    (hrest : EndsNumber rest) : digitsOf (digits ++ rest) = digits := by
  have hnone : rest.takeWhile Char.isDigit = [] := by
    cases rest with
    | nil => rfl
    | cons c rest => simp [(hrest c rfl).1]
  rw [digitsOf, List.takeWhile_append_of_pos h, hnone, List.append_nil]

theorem afterDigits_append {digits rest : List Char} (h : ∀ c ∈ digits, c.isDigit = true)
    (hrest : EndsNumber rest) : afterDigits (digits ++ rest) = rest := by
  have hall : rest.dropWhile Char.isDigit = rest := by
    cases rest with
    | nil => rfl
    | cons c rest => simp [(hrest c rfl).1]
  rw [afterDigits, List.dropWhile_append_of_pos h, hall]

/-- A numeral of a positive number does not begin with a zero. -/
theorem head?_repr_ne {n : Nat} (h : 0 < n) : n.repr.toList.head? ≠ some '0' := by
  rw [Nat.toList_repr]
  induction n using Nat.strongRecOn with
  | ind n ih =>
    by_cases hlt : n < 10
    · rw [Nat.toDigits_of_lt_base hlt]
      have hall : ∀ n < 10, 0 < n → [n.digitChar].head? ≠ some '0' := by decide
      exact hall n hlt h
    · rw [Nat.toDigits_of_base_le (by decide) (Nat.le_of_not_lt hlt),
        List.head?_append_of_ne_nil _ Nat.toDigits_ne_nil]
      exact ih (n / 10) (by omega) (by omega)

theorem readWhole_repr (n : Nat) {rest : List Char} (hrest : EndsNumber rest) :
    readWhole (n.repr.toList ++ rest) = some (n.repr.toList, rest) := by
  have hdigits : ∀ c ∈ n.repr.toList, c.isDigit = true := fun _ => isDigit_of_mem_repr
  rcases Nat.eq_zero_or_pos n with rfl | hpos
  · have hnone : digitsOf rest = [] := @digitsOf_append [] rest nofun hrest
    show readWhole ('0' :: rest) = some (['0'], rest)
    simp [readWhole, hnone]
  · have hzero : ∀ tail, n.repr.toList ++ rest ≠ '0' :: tail := by
      intro tail heq
      have hhead := congrArg List.head? heq
      rw [List.head?_append_of_ne_nil _ (repr_ne_nil n)] at hhead
      exact head?_repr_ne hpos hhead
    unfold readWhole
    split
    · rename_i tail heq
      exact absurd heq (hzero tail)
    · simp only [digitsOf_append hdigits hrest, afterDigits_append hdigits hrest,
        List.isEmpty_eq_false_iff.mpr (repr_ne_nil n), Bool.false_eq_true, if_false]

theorem readUnsigned_repr (negative : Bool) (n : Nat) {rest : List Char}
    (hrest : EndsNumber rest) :
    readUnsigned negative (n.repr.toList ++ rest) =
      some (⟨negative, n.repr.toList, none, none⟩, rest) := by
  have hfraction : readFraction rest = some (none, rest) := by
    cases rest with
    | nil => rfl
    | cons c rest =>
      have hpoint : c ≠ '.' := (hrest c rfl).2.1
      simp [readFraction, hpoint]
  have hexponent : readExponent rest = some (none, rest) := by
    cases rest with
    | nil => rfl
    | cons c rest => simp [readExponent, (hrest c rfl).2.2]
  simp only [readUnsigned, readWhole_repr n hrest, hfraction, hexponent, bind, Option.bind]

/-- A written integer is read as it is. -/
theorem readNumber_writeInt (n : Int) {rest : List Char} (hrest : EndsNumber rest) :
    readNumber (writeInt n ++ rest) = some (.ofInt n, rest) := by
  unfold writeInt
  split
  · rename_i hneg
    simp only [List.cons_append, readNumber, readUnsigned_repr true _ hrest, Numeral.ofInt, hneg,
      decide_true]
  · rename_i hneg
    have hminus : ∀ tail, n.natAbs.repr.toList ++ rest ≠ '-' :: tail := by
      intro tail heq
      have hhead := congrArg List.head? heq
      rw [List.head?_append_of_ne_nil _ (repr_ne_nil _)] at hhead
      have hdigit := isDigit_of_mem_repr (List.mem_of_mem_head? hhead)
      cases hdigit
    unfold readNumber
    split
    · rename_i tail heq
      exact absurd heq (hminus tail)
    · simp only [readUnsigned_repr false _ hrest, Numeral.ofInt, hneg, decide_false]

/-! ### Values -/

namespace Tree

mutual
/-- The tree of a written value. A number with a fraction is read off its own text. -/
def ofJson : Json → Tree
  | .null => .null
  | .bool b => .bool b
  | .int n => .number (.ofInt n)
  | .float x => ((readNumber x.text.toList).map fun n => .number n.1).getD .null
  | .string s => .string (some s)
  | .array items => .array (itemTrees items)
  | .object members => .object (memberTrees members)
def itemTrees : List Json → List Tree
  | [] => []
  | item :: items => ofJson item :: itemTrees items
def memberTrees : List (String × Json) → List (Option String × Tree)
  | [] => []
  | (key, value) :: members => (some key, ofJson value) :: memberTrees members
end

theorem itemTrees_eq_map (items : List Json) : itemTrees items = items.map ofJson := by
  induction items with
  | nil => rfl
  | cons item items ih => rw [itemTrees, ih, List.map_cons]

theorem memberTrees_eq_map (members : List (String × Json)) :
    memberTrees members = members.map fun m => (some m.1, ofJson m.2) := by
  induction members with
  | nil => rfl
  | cons m members ih => rw [memberTrees, ih, List.map_cons]

end Tree

mutual
/-- The value holds integers of 64 bits only, no numbers with a fraction, and its containers nest at
most `room` deep. -/
def fits (room : Nat) : Json → Bool
  | .null => true
  | .bool _ => true
  | .int n => decide (-(Nat.pow 2 63 : Int) ≤ n) && decide (n ≤ wordMax)
  | .float _ => false
  | .string _ => true
  | .array items => decide (0 < room) && itemsFit (room - 1) items
  | .object members => decide (0 < room) && membersFit (room - 1) members
def itemsFit (room : Nat) : List Json → Bool
  | [] => true
  | item :: items => fits room item && itemsFit room items
def membersFit (room : Nat) : List (String × Json) → Bool
  | [] => true
  | (_, value) :: members => fits room value && membersFit room members
end

theorem skipSpace_cons {c : Char} (h : isSpace c = false) (s : List Char) :
    skipSpace (c :: s) = c :: s := by
  simp [skipSpace, h]

theorem ne_of_beginsNumber {c d : Char} (h : c.isDigit = true ∨ c = '-')
    (hd : d.isDigit = false ∧ d ≠ '-') : c ≠ d := by
  rintro rfl
  rcases h with h | h
  · rw [hd.1] at h
    cases h
  · exact hd.2 h

theorem isSpace_of_beginsNumber {c : Char} (h : c.isDigit = true ∨ c = '-') :
    isSpace c = false := by
  simp only [isSpace, Bool.or_eq_false_iff, decide_eq_false_iff_not]
  refine ⟨⟨⟨?_, ?_⟩, ?_⟩, ?_⟩ <;> exact ne_of_beginsNumber h (by decide)

/-- A text that begins like a number is read as one. -/
theorem readValue_of_number {c : Char} (h : c.isDigit = true ∨ c = '-') (fuel : Nat)
    (s : List Char) :
    readValue (fuel + 1) (c :: s) = (readNumber (c :: s)).map fun p => (.number p.1, p.2) := by
  rw [readValue, skipSpace_cons (isSpace_of_beginsNumber h)]
  split
  -- the first cases are texts that begin with a letter, a quote or a bracket
  case h_7 =>
    cases readNumber (c :: s) <;> rfl
  all_goals
    rename_i heq
    injection heq with hc
    exact absurd hc (ne_of_beginsNumber h (by decide))

theorem writeInt_eq_cons (n : Int) :
    ∃ c tail, writeInt n = c :: tail ∧ (c.isDigit = true ∨ c = '-') := by
  obtain ⟨c, tail, hcons⟩ := List.exists_cons_of_ne_nil (repr_ne_nil n.natAbs)
  unfold writeInt
  split
  · exact ⟨'-', _, rfl, .inr rfl⟩
  · refine ⟨c, tail, hcons, .inl (isDigit_of_mem_repr (n := n.natAbs) ?_)⟩
    rw [hcons]
    exact List.mem_cons_self

/-- A written value begins with no space, and not as an array ends. -/
theorem write_eq_cons {room : Nat} {v : Json} (h : fits room v = true) :
    ∃ c tail, write v = c :: tail ∧ isSpace c = false ∧ c ≠ ']' := by
  cases v with
  | null => exact ⟨_, _, rfl, by decide, by decide⟩
  | bool b => cases b <;> exact ⟨_, _, rfl, by decide, by decide⟩
  | int n =>
    obtain ⟨c, tail, hcons, hc⟩ := writeInt_eq_cons n
    exact ⟨c, tail, hcons, isSpace_of_beginsNumber hc, ne_of_beginsNumber hc (by decide)⟩
  | float x => cases h
  | string s => exact ⟨_, _, rfl, by decide, by decide⟩
  | array items => cases items <;> exact ⟨_, _, rfl, by decide, by decide⟩
  | object members =>
    rcases members with _ | ⟨⟨key, value⟩, members⟩ <;> exact ⟨_, _, rfl, by decide, by decide⟩

/-- A number may stand before what follows an item. -/
theorem endsNumber_writeItems (items : List Json) (rest : List Char) :
    EndsNumber (writeItems items ++ rest) := by
  cases items <;> exact endsNumber_cons (by decide) _

theorem endsNumber_writeMembers (members : List (String × Json)) (rest : List Char) :
    EndsNumber (writeMembers members ++ rest) := by
  rcases members with _ | ⟨⟨key, value⟩, members⟩ <;> exact endsNumber_cons (by decide) _

/-! The step of each kind of container, from what its parts are read as. -/

section Steps

variable {fuel : Nat} {s rest rest' : List Char}

theorem readValue_array {t : Tree} {ts : List Tree} (hskip : skipSpace s = s)
    (hclose : s.head? ≠ some ']') (h : readValue fuel s = some (t, rest))
    (hmore : readItems fuel rest = some (ts, rest')) :
    readValue (fuel + 1) ('[' :: s) = some (.array (t :: ts), rest') := by
  rw [readValue, skipSpace_cons (by decide)]
  simp only [hskip]
  split
  · exact absurd rfl hclose
  · simp only [h, hmore]

theorem readItems_cons {t : Tree} {ts : List Tree} (h : readValue fuel s = some (t, rest))
    (hmore : readItems fuel rest = some (ts, rest')) :
    readItems (fuel + 1) (',' :: s) = some (t :: ts, rest') := by
  rw [readItems, skipSpace_cons (by decide)]
  simp only [h, hmore]

theorem readMember_of_readValue {key : String} {t : Tree} (h : readValue fuel s = some (t, rest)) :
    readMember (fuel + 1) (writeString key ++ ':' :: s) = some ((some key, t), rest) := by
  rw [writeString, List.cons_append, List.append_assoc, readMember, skipSpace_cons (by decide)]
  simp only [List.singleton_append, readString_escapeAll, skipSpace_cons (c := ':') (by decide), h]

theorem readValue_object {key : String} {m : Option String × Tree}
    {ms : List (Option String × Tree)}
    (h : readMember fuel (writeString key ++ s) = some (m, rest))
    (hmore : readMembers fuel rest = some (ms, rest')) :
    readValue (fuel + 1) ('{' :: (writeString key ++ s)) = some (.object (m :: ms), rest') := by
  have hskip : skipSpace (writeString key ++ s) = writeString key ++ s :=
    skipSpace_cons (by decide) _
  rw [readValue, skipSpace_cons (by decide)]
  simp only [hskip]
  split
  · rename_i heq
    cases heq
  · simp only [h, hmore]

theorem readMembers_cons {m : Option String × Tree} {ms : List (Option String × Tree)}
    (h : readMember fuel s = some (m, rest)) (hmore : readMembers fuel rest = some (ms, rest')) :
    readMembers (fuel + 1) (',' :: s) = some (m :: ms, rest') := by
  rw [readMembers, skipSpace_cons (by decide)]
  simp only [h, hmore]

end Steps

mutual
/-- Reading a text that begins with a written value gives the tree of the value and the rest. -/
theorem readValue_write {room fuel : Nat} {rest : List Char} : ∀ v : Json, fits room v = true →
    (write v).length ≤ fuel → EndsNumber rest →
      readValue fuel (write v ++ rest) = some (ofJson v, rest)
  | .null, _, hfuel, _ => by
    obtain ⟨fuel, rfl⟩ := Nat.exists_eq_add_of_le' (Nat.le_trans (by decide : 1 ≤ 4) hfuel)
    rfl
  | .bool true, _, hfuel, _ => by
    obtain ⟨fuel, rfl⟩ := Nat.exists_eq_add_of_le' (Nat.le_trans (by decide : 1 ≤ 4) hfuel)
    rfl
  | .bool false, _, hfuel, _ => by
    obtain ⟨fuel, rfl⟩ := Nat.exists_eq_add_of_le' (Nat.le_trans (by decide : 1 ≤ 5) hfuel)
    rfl
  | .int n, _, hfuel, hrest => by
    obtain ⟨c, tail, hcons, hc⟩ := writeInt_eq_cons n
    have hread := readNumber_writeInt n hrest
    rw [write, hcons] at hfuel
    rw [hcons] at hread
    obtain ⟨fuel, rfl⟩ := Nat.exists_eq_add_of_le' (Nat.le_trans (Nat.succ_pos _) hfuel)
    rw [write, hcons, List.cons_append, readValue_of_number hc, ← List.cons_append, hread]
    rfl
  | .float x, h, _, _ => by cases h
  | .string s, _, hfuel, _ => by
    obtain ⟨fuel, rfl⟩ := Nat.exists_eq_add_of_le' (Nat.le_trans (Nat.succ_pos _) hfuel)
    rw [write, writeString, List.cons_append, List.append_assoc, readValue,
      skipSpace_cons (by decide)]
    simp only [List.singleton_append, readString_escapeAll, ofJson]
  | .array [], _, hfuel, _ => by
    obtain ⟨fuel, rfl⟩ := Nat.exists_eq_add_of_le' (Nat.le_trans (by decide : 1 ≤ 2) hfuel)
    rfl
  | .array (item :: items), h, hfuel, _ => by
    simp only [fits, itemsFit, Bool.and_eq_true] at h
    obtain ⟨-, hitem, hitems⟩ := h
    rw [write, List.length_cons, List.length_append] at hfuel
    obtain ⟨fuel, rfl⟩ := Nat.exists_eq_add_of_le' (Nat.le_trans (Nat.succ_pos _) hfuel)
    have hread := readValue_write item hitem (by omega : (write item).length ≤ fuel)
      (endsNumber_writeItems items rest)
    have hmore := @readItems_write _ _ rest items hitems
      (by omega : (writeItems items).length ≤ fuel)
    obtain ⟨c, tail, hcons, hspace, hclose⟩ := write_eq_cons hitem
    rw [write, List.cons_append, List.append_assoc, ofJson, itemTrees]
    refine readValue_array ?_ ?_ hread hmore
    · rw [hcons]
      exact skipSpace_cons hspace _
    · rw [hcons]
      exact fun heq => hclose (Option.some.inj heq)
  | .object [], _, hfuel, _ => by
    obtain ⟨fuel, rfl⟩ := Nat.exists_eq_add_of_le' (Nat.le_trans (by decide : 1 ≤ 2) hfuel)
    rfl
  | .object ((key, value) :: members), h, hfuel, _ => by
    simp only [fits, membersFit, Bool.and_eq_true] at h
    obtain ⟨-, hvalue, hmembers⟩ := h
    rw [write, List.length_cons, List.length_append, List.length_cons, List.length_append] at hfuel
    -- one step for the object and one for its first member
    obtain ⟨fuel, rfl⟩ := Nat.exists_eq_add_of_le' (by omega : 2 ≤ fuel)
    have hread := readValue_write value hvalue (by omega : (write value).length ≤ fuel)
      (endsNumber_writeMembers members rest)
    have hmore := @readMembers_write _ _ rest members hmembers
      (by omega : (writeMembers members).length ≤ fuel + 1)
    rw [write, List.cons_append, List.append_assoc, List.cons_append, List.append_assoc, ofJson,
      memberTrees]
    exact readValue_object (readMember_of_readValue hread) hmore
theorem readItems_write {room fuel : Nat} {rest : List Char} : ∀ items : List Json,
    itemsFit room items = true → (writeItems items).length ≤ fuel →
      readItems fuel (writeItems items ++ rest) = some (itemTrees items, rest)
  | [], _, hfuel => by
    obtain ⟨fuel, rfl⟩ := Nat.exists_eq_add_of_le' (Nat.le_trans (by decide : 1 ≤ 1) hfuel)
    rfl
  | item :: items, h, hfuel => by
    simp only [itemsFit, Bool.and_eq_true] at h
    obtain ⟨hitem, hitems⟩ := h
    rw [writeItems, List.length_cons, List.length_append] at hfuel
    obtain ⟨fuel, rfl⟩ := Nat.exists_eq_add_of_le' (Nat.le_trans (Nat.succ_pos _) hfuel)
    have hread := readValue_write item hitem (by omega : (write item).length ≤ fuel)
      (endsNumber_writeItems items rest)
    have hmore := @readItems_write _ _ rest items hitems
      (by omega : (writeItems items).length ≤ fuel)
    rw [writeItems, List.cons_append, List.append_assoc, itemTrees]
    exact readItems_cons hread hmore
theorem readMembers_write {room fuel : Nat} {rest : List Char} : ∀ members : List (String × Json),
    membersFit room members = true → (writeMembers members).length ≤ fuel →
      readMembers fuel (writeMembers members ++ rest) = some (memberTrees members, rest)
  | [], _, hfuel => by
    obtain ⟨fuel, rfl⟩ := Nat.exists_eq_add_of_le' (Nat.le_trans (by decide : 1 ≤ 1) hfuel)
    rfl
  | (key, value) :: members, h, hfuel => by
    simp only [membersFit, Bool.and_eq_true] at h
    obtain ⟨hvalue, hmembers⟩ := h
    rw [writeMembers, List.length_cons, List.length_append, List.length_cons, List.length_append]
      at hfuel
    obtain ⟨fuel, rfl⟩ := Nat.exists_eq_add_of_le' (by omega : 2 ≤ fuel)
    have hread := readValue_write value hvalue (by omega : (write value).length ≤ fuel)
      (endsNumber_writeMembers members rest)
    have hmore := @readMembers_write _ _ rest members hmembers
      (by omega : (writeMembers members).length ≤ fuel + 1)
    rw [writeMembers, List.cons_append, List.append_assoc, List.cons_append, List.append_assoc,
      memberTrees]
    exact readMembers_cons (readMember_of_readValue hread) hmore
end

/-- Reading a written value gives its tree. -/
theorem parse_write {room : Nat} {v : Json} (h : fits room v = true) :
    Tree.parse (write v) = some (ofJson v) := by
  have hread : readValue (2 * (write v).length + 2) (write v ++ []) = some (ofJson v, []) :=
    readValue_write v h (by omega) endsNumber_nil
  rw [List.append_nil] at hread
  simp [Tree.parse, hread, skipSpace]

end LeasePool.Json
