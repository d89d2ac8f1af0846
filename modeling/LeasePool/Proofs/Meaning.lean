import LeasePool.Assoc
import LeasePool.Proofs.Spelling
import LeasePool.Wire.Decode
import Mathlib.Data.List.Perm.Basic
import Mathlib.Data.List.Nodup

/-!
What the tree of a written value means. Its value is the value with the members of its objects put
in order, when the value is one that can be sent. The fields of a structure are found in an object
by their names, in whatever order they stand.
-/
namespace LeasePool

/-! ### Members in order -/

namespace Fields

theorem insert_of_forall_lt {key : String} {value : Json} {fields : Fields}
    (h : ∀ m ∈ fields, m.1 < key) : insert key value fields = fields ++ [(key, value)] := by
  induction fields with
  | nil => rfl
  | cons m rest ih =>
    have hm : m.1 < key := h m List.mem_cons_self
    have hne : key ≠ m.1 := Ne.symm (String.ne_of_lt hm)
    have hge : ¬ key < m.1 := String.lt_asymm hm
    rw [insert, if_neg hne, if_neg hge, ih fun a ha => h a (List.mem_cons_of_mem m ha),
      List.cons_append]

theorem merge_of_sorted {base overlay : Fields} (h : Sorted (base ++ overlay)) :
    merge base overlay = base ++ overlay := by
  induction overlay generalizing base with
  | nil => rw [merge, List.foldl_nil, List.append_nil]
  | cons m overlay ih =>
    have hbefore : ∀ a ∈ base, a.1 < m.1 := by
      intro a ha
      exact (List.pairwise_append.mp h).2.2 a ha m List.mem_cons_self
    have hinsert : base.insert m.1 m.2 = base ++ [m] := insert_of_forall_lt hbefore
    have hsorted : Sorted ((base ++ [m]) ++ overlay) := by
      rwa [List.append_assoc, List.singleton_append]
    have hmerge := ih hsorted
    rw [List.append_assoc, List.singleton_append] at hmerge
    rw [← hmerge, merge, List.foldl_cons, hinsert, merge]

/-- Members that are in order stay as they are. -/
theorem ofList_of_sorted {members : Fields} (h : Sorted members) : ofList members = members := by
  have hmerge := @merge_of_sorted [] members h
  rwa [List.nil_append] at hmerge

theorem insert_perm {key : String} {fields : Fields} (value : Json)
    (h : key ∉ fields.map Prod.fst) : (insert key value fields).Perm ((key, value) :: fields) := by
  induction fields with
  | nil => exact .refl _
  | cons m rest ih =>
    rw [List.map_cons, List.mem_cons, not_or] at h
    rw [insert, if_neg h.1]
    split
    · exact .refl _
    · exact ((ih h.2).cons m).trans (.swap _ _ _)

theorem merge_perm {base overlay : Fields} (h : ((base ++ overlay).map Prod.fst).Nodup) :
    (merge base overlay).Perm (base ++ overlay) := by
  induction overlay generalizing base with
  | nil => rw [merge, List.foldl_nil, List.append_nil]
  | cons m overlay ih =>
    have hmiddle : (base ++ m :: overlay).Perm (m :: (base ++ overlay)) := List.perm_middle
    have hnodup : ((m :: (base ++ overlay)).map Prod.fst).Nodup :=
      (hmiddle.map Prod.fst).nodup_iff.mp h
    have hnew : m.1 ∉ base.map Prod.fst := by
      intro hmem
      rw [List.map_cons, List.nodup_cons, List.map_append] at hnodup
      exact hnodup.1 (List.mem_append_left _ hmem)
    have hinsert : (base.insert m.1 m.2).Perm (m :: base) := insert_perm m.2 hnew
    have hbase : (base.insert m.1 m.2 ++ overlay).Perm (m :: (base ++ overlay)) :=
      hinsert.append_right overlay
    rw [merge, List.foldl_cons]
    exact (ih ((hbase.map Prod.fst).nodup_iff.mpr hnodup)).trans (hbase.trans hmiddle.symm)

/-- Members with keys of their own are put in order. -/
theorem ofList_perm {members : Fields} (h : (members.map Prod.fst).Nodup) :
    (ofList members).Perm members := by
  have hmerge := @merge_perm [] members h
  rwa [List.nil_append] at hmerge

end Fields

namespace Json

open Text Json.Tree

/-! ### Values of trees -/

mutual
theorem fits_mono {room room' : Nat} (hle : room ≤ room') : ∀ v : Json, fits room v = true →
    fits room' v = true
  | .null, _ => rfl
  | .bool _, _ => rfl
  | .int _, h => h
  | .float _, h => by cases h
  | .string _, _ => rfl
  | .array items, h => by
    simp only [fits, Bool.and_eq_true, decide_eq_true_eq] at h ⊢
    exact ⟨by omega, itemsFit_mono (by omega) items h.2⟩
  | .object members, h => by
    simp only [fits, Bool.and_eq_true, decide_eq_true_eq] at h ⊢
    exact ⟨by omega, membersFit_mono (by omega) members h.2⟩
theorem itemsFit_mono {room room' : Nat} (hle : room ≤ room') : ∀ items : List Json,
    itemsFit room items = true → itemsFit room' items = true
  | [], _ => rfl
  | item :: items, h => by
    rw [itemsFit, Bool.and_eq_true] at h ⊢
    exact ⟨fits_mono hle item h.1, itemsFit_mono hle items h.2⟩
theorem membersFit_mono {room room' : Nat} (hle : room ≤ room') :
    ∀ members : List (String × Json), membersFit room members = true →
      membersFit room' members = true
  | [], _ => rfl
  | (_, value) :: members, h => by
    rw [membersFit, Bool.and_eq_true] at h ⊢
    exact ⟨fits_mono hle value h.1, membersFit_mono hle members h.2⟩
end

mutual
/-- The value with the members of all objects in order. -/
def ordered : Json → Json
  | .array items => .array (orderedItems items)
  | .object members => .ofMembers (orderedMembers members)
  | v => v
def orderedItems : List Json → List Json
  | [] => []
  | item :: items => ordered item :: orderedItems items
def orderedMembers : List (String × Json) → List (String × Json)
  | [] => []
  | (key, value) :: members => (key, ordered value) :: orderedMembers members
end

mutual
/-- The members of all objects are in order. -/
def isOrdered : Json → Bool
  | .array items => areOrdered items
  | .object members => decide (members.Pairwise fun a b => a.1 < b.1) && areMembersOrdered members
  | _ => true
def areOrdered : List Json → Bool
  | [] => true
  | item :: items => isOrdered item && areOrdered items
def areMembersOrdered : List (String × Json) → Bool
  | [] => true
  | (_, value) :: members => isOrdered value && areMembersOrdered members
end

mutual
theorem ordered_eq_self : ∀ v : Json, isOrdered v = true → ordered v = v
  | .null, _ => rfl
  | .bool _, _ => rfl
  | .int _, _ => rfl
  | .float _, _ => rfl
  | .string _, _ => rfl
  | .array items, h => by
    rw [isOrdered] at h
    rw [ordered, orderedItems_eq_self items h]
  | .object members, h => by
    rw [isOrdered, Bool.and_eq_true, decide_eq_true_eq] at h
    rw [ordered, orderedMembers_eq_self members h.2, ofMembers, Fields.ofList_of_sorted h.1]
theorem orderedItems_eq_self : ∀ items : List Json, areOrdered items = true →
    orderedItems items = items
  | [], _ => rfl
  | item :: items, h => by
    rw [areOrdered, Bool.and_eq_true] at h
    rw [orderedItems, ordered_eq_self item h.1, orderedItems_eq_self items h.2]
theorem orderedMembers_eq_self : ∀ members : List (String × Json),
    areMembersOrdered members = true → orderedMembers members = members
  | [], _ => rfl
  | (key, value) :: members, h => by
    rw [areMembersOrdered, Bool.and_eq_true] at h
    rw [orderedMembers, ordered_eq_self value h.1, orderedMembers_eq_self members h.2]
end

/-- An integer of 64 bits is read as it is. -/
theorem value?_ofInt {n : Int} (hlow : -(Nat.pow 2 63 : Int) ≤ n) (hhigh : n ≤ wordMax) :
    (Numeral.ofInt n).value? = some (.int n) := by
  have hmax : wordMax = 18446744073709551615 := rfl
  have hpow : Nat.pow 2 63 = 9223372036854775808 := rfl
  have hword : n.natAbs ≤ wordMax := by omega
  have hdigits : (Numeral.ofInt n).whole = n.natAbs.repr.toList := rfl
  by_cases hneg : n < 0
  · have hsmall : ¬ (n.natAbs = 0 ∨ Nat.pow 2 63 < n.natAbs) := by omega
    have hback : -(n.natAbs : Int) = n := by omega
    rw [Numeral.value?, hdigits, word?_repr hword]
    simp only [Numeral.ofInt, hneg, hsmall, hback, decide_true, Option.isSome_none,
      Bool.false_eq_true, or_self, if_false, Bool.not_true]
  · have hback : (n.natAbs : Int) = n := by omega
    rw [Numeral.value?, hdigits, word?_repr hword]
    simp only [Numeral.ofInt, hneg, hback, decide_false, Option.isSome_none, Bool.false_eq_true,
      or_self, if_false, Bool.not_false, if_true]

mutual
/-- The value of a written value that can be sent is the value with its members in order. -/
theorem value?_ofJson : ∀ (room : Nat) (v : Json), fits room v = true →
    (ofJson v).value? room = some (ordered v)
  | _, .null, _ => rfl
  | _, .bool _, _ => rfl
  | _, .int n, h => by
    simp only [fits, Bool.and_eq_true, decide_eq_true_eq] at h
    rw [ofJson, Tree.value?, value?_ofInt h.1 h.2]
    rfl
  | _, .float _, h => by cases h
  | _, .string _, _ => rfl
  | room, .array items, h => by
    simp only [fits, Bool.and_eq_true, decide_eq_true_eq] at h
    rw [ofJson, Tree.value?, if_neg (Nat.ne_of_gt h.1), itemValues?_itemTrees _ items h.2, ordered,
      Option.map_some]
  | room, .object members, h => by
    simp only [fits, Bool.and_eq_true, decide_eq_true_eq] at h
    rw [ofJson, Tree.value?, if_neg (Nat.ne_of_gt h.1), memberValues?_memberTrees _ members h.2,
      ordered, Option.map_some]
theorem itemValues?_itemTrees : ∀ (room : Nat) (items : List Json), itemsFit room items = true →
    itemValues? room (itemTrees items) = some (orderedItems items)
  | _, [], _ => rfl
  | room, item :: items, h => by
    rw [itemsFit, Bool.and_eq_true] at h
    simp only [itemTrees, itemValues?, value?_ofJson room item h.1,
      itemValues?_itemTrees room items h.2, orderedItems]
theorem memberValues?_memberTrees : ∀ (room : Nat) (members : List (String × Json)),
    membersFit room members = true →
      memberValues? room (memberTrees members) = some (orderedMembers members)
  | _, [], _ => rfl
  | room, (key, value) :: members, h => by
    rw [membersFit, Bool.and_eq_true] at h
    simp only [memberTrees, memberValues?, value?_ofJson room value h.1,
      memberValues?_memberTrees room members h.2, orderedMembers]
end

/-! ### Fields of structures -/

/-- The value is an object with the given members, in some order. -/
def Lists (v : Json) (members : List (String × Json)) : Prop :=
  ∃ ms : List (String × Json), ms.Perm members ∧ v = .object ms

theorem lists_object (members : List (String × Json)) : (Json.object members).Lists members :=
  ⟨members, .refl _, rfl⟩

theorem lists_ofMembers {members : List (String × Json)} (h : (members.map Prod.fst).Nodup) :
    (ofMembers members).Lists members :=
  ⟨Fields.ofList members, Fields.ofList_perm h, rfl⟩

theorem membersFit_iff {room : Nat} {members : List (String × Json)} :
    membersFit room members = true ↔ ∀ m ∈ members, fits room m.2 = true := by
  induction members with
  | nil => simp [membersFit]
  | cons m members ih =>
    rw [membersFit, Bool.and_eq_true, ih, List.forall_mem_cons]

theorem itemsFit_iff {room : Nat} {items : List Json} :
    itemsFit room items = true ↔ ∀ v ∈ items, fits room v = true := by
  induction items with
  | nil => simp [itemsFit]
  | cons v items ih =>
    rw [itemsFit, Bool.and_eq_true, ih, List.forall_mem_cons]

section Members

variable {v : Json} {members : List (String × Json)}

/-- An object fits where there is room for it and for each of its members. -/
theorem Lists.fits_of_members {room : Nat} (hv : v.Lists members) (hroom : 0 < room)
    (h : ∀ m ∈ members, fits (room - 1) m.2 = true) : fits room v = true := by
  obtain ⟨ms, hperm, rfl⟩ := hv
  have hmembers : membersFit (room - 1) ms = true :=
    membersFit_iff.mpr fun m hm => h m (hperm.mem_iff.mp hm)
  rw [fits, hmembers, decide_eq_true hroom, Bool.and_self]

theorem find?_memberTrees (ms : List (String × Json)) (name : String) :
    ((memberTrees ms).find? fun m => m.1 == some name).map Prod.snd =
      (Assoc.get? name ms).map ofJson := by
  induction ms with
  | nil => rfl
  | cons m ms ih =>
    rw [memberTrees, List.find?_cons, Assoc.get?]
    by_cases hname : m.1 = name
    · have hsame : ((some m.1 : Option String) == some name) = true := by simp [hname]
      rw [if_pos hname]
      simp only [hsame, Option.map_some]
    · have hother : ((some m.1 : Option String) == some name) = false := by simp [hname]
      rw [if_neg hname]
      simp only [hother]
      exact ih

/-- The fields of an object are found by their names, in whatever order they stand. -/
theorem Lists.fields?_eq (hv : v.Lists members) (h : (members.map Prod.fst).Nodup) :
    (ofJson v).fields? (members.map Prod.fst) =
      some (members.map fun m => some (ofJson m.2)) := by
  obtain ⟨ms, hperm, rfl⟩ := hv
  have hnodup : (ms.map Prod.fst).Nodup := (hperm.map Prod.fst).nodup_iff.mpr h
  have hnamed : (memberTrees ms).all (fun m => m.1.isSome) = true := by
    simp [memberTrees_eq_map]
  have honce : (members.map Prod.fst).all (fun name =>
      (memberTrees ms).countP (fun m => m.1 == some name) ≤ 1) = true := by
    rw [List.all_eq_true]
    intro name _
    have hcount := List.nodup_iff_count_le_one.mp hnodup name
    rw [List.count, List.countP_map] at hcount
    rw [decide_eq_true_eq, memberTrees_eq_map, List.countP_map]
    exact hcount
  rw [ofJson, fields?, hnamed, honce, Bool.and_self, if_pos rfl, List.map_map]
  apply congrArg some
  apply List.map_congr_left
  intro m hm
  show ((memberTrees ms).find? fun n => n.1 == some m.1).map Prod.snd = some (ofJson m.2)
  rw [find?_memberTrees, Assoc.get?_of_mem hnodup (hperm.mem_iff.mpr hm), Option.map_some]

end Members

end Json

end LeasePool
