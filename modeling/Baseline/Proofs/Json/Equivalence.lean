import Baseline.Json.Canonical
import Mathlib.Data.List.Forall2
import Mathlib.Data.List.Nodup

/-!
# Values up to the order of members

`Equivalent` compares two values without looking at the order of object members,
at any depth.  `sortMembers_eq_iff` says that sorting the members picks one
value out of each class of equivalent values.

A value is well formed when no object has a name twice and every float token is
a number that cannot be taken for an integer.
-/

namespace Baseline
namespace Json

/-- The characters that numbers are printed with. -/
def isNumberChar (char : Char) : Bool :=
  char.isDigit || char == '-' || char == '+' || char == '.' || char == 'e'

/-- A number with a point or an exponent. -/
def IsFloatToken (token : String) : Prop :=
  (∀ char ∈ token.toList, isNumberChar char) ∧
    ('.' ∈ token.toList ∨ 'e' ∈ token.toList)

instance (token : String) : Decidable (IsFloatToken token) :=
  decidable_of_iff
    (token.toList.all isNumberChar ∧ ('.' ∈ token.toList ∨ 'e' ∈ token.toList)) <| by
      rw [List.all_eq_true]
      rfl

/-- No object has a name twice, and floats are printed as floats, at every
depth. -/
inductive WellFormed : Json → Prop
  | null : WellFormed .null
  | bool (value : Bool) : WellFormed (.bool value)
  | int (value : Int) : WellFormed (.int value)
  | float {token : String} : IsFloatToken token → WellFormed (.float token)
  | string (text : String) : WellFormed (.string text)
  | array {items : List Json} :
      (∀ item ∈ items, WellFormed item) → WellFormed (.array items)
  | object {members : List (String × Json)} :
      (members.map Prod.fst).Nodup →
      (∀ member ∈ members, WellFormed member.2) →
      WellFormed (.object members)

/-- Two values are equal up to the order of object members at every depth: two
objects have the same names, and equivalent values under each name. -/
inductive Equivalent : Json → Json → Prop
  | null : Equivalent .null .null
  | bool (value : Bool) : Equivalent (.bool value) (.bool value)
  | int (value : Int) : Equivalent (.int value) (.int value)
  | float (token : String) : Equivalent (.float token) (.float token)
  | string (text : String) : Equivalent (.string text) (.string text)
  | array {left right : List Json} :
      left.length = right.length →
      (∀ pair ∈ left.zip right, Equivalent pair.1 pair.2) →
      Equivalent (.array left) (.array right)
  | object {left right : List (String × Json)} :
      (left.map Prod.fst).Perm (right.map Prod.fst) →
      (∀ name leftValue rightValue, (name, leftValue) ∈ left →
        (name, rightValue) ∈ right → Equivalent leftValue rightValue) →
      Equivalent (.object left) (.object right)

/-! ## Sorting as an operation on lists -/

/-- A member with the members of its value sorted. -/
def sortMember (member : String × Json) : String × Json :=
  (member.1, member.2.sortMembers)

theorem sortMembersList_eq_map (items : List Json) :
    sortMembersList items = items.map sortMembers := by
  induction items with
  | nil => rfl
  | cons item rest inductionHypothesis =>
      rw [sortMembersList, inductionHypothesis, List.map_cons]

theorem sortMembersPairs_eq_map (members : List (String × Json)) :
    sortMembersPairs members = members.map sortMember := by
  induction members with
  | nil => rfl
  | cons member rest inductionHypothesis =>
      obtain ⟨name, value⟩ := member
      rw [sortMembersPairs, inductionHypothesis, List.map_cons]
      rfl

@[simp] theorem map_fst_map_sortMember (members : List (String × Json)) :
    (members.map sortMember).map Prod.fst = members.map Prod.fst := by
  simp [sortMember, Function.comp_def]

theorem sortMembers_array (items : List Json) :
    sortMembers (.array items) = .array (items.map sortMembers) := by
  rw [sortMembers, sortMembersList_eq_map]

theorem sortMembers_object (members : List (String × Json)) :
    sortMembers (.object members) =
      .object ((members.map sortMember).mergeSort nameLe) := by
  rw [sortMembers, sortMembersPairs_eq_map]

/-- Sorted members are the members in another order. -/
theorem sorted_perm (members : List (String × Json)) :
    (members.map sortMember).mergeSort nameLe |>.Perm (members.map sortMember) :=
  List.mergeSort_perm _ _

theorem pairwise_sorted (members : List (String × Json)) :
    ((members.map sortMember).mergeSort nameLe).Pairwise fun left right => nameLe left right := by
  apply List.pairwise_mergeSort
  · intro first second third
    simp only [nameLe, decide_eq_true_eq]
    exact String.le_trans
  · intro left right
    simp only [nameLe, Bool.or_eq_true, decide_eq_true_eq]
    exact String.le_total left.1 right.1

/-- A name determines its value among members with different names. -/
theorem value_unique
    {members : List (String × Json)}
    (namesNodup : (members.map Prod.fst).Nodup)
    {name : String}
    {left right : Json}
    (leftMember : (name, left) ∈ members)
    (rightMember : (name, right) ∈ members) :
    left = right := by
  have equal := List.inj_on_of_nodup_map namesNodup leftMember rightMember rfl
  exact congrArg Prod.snd equal

theorem mem_map_sortMember
    {members : List (String × Json)}
    {name : String}
    {value : Json} :
    (name, value) ∈ members.map sortMember ↔
      ∃ original, (name, original) ∈ members ∧ original.sortMembers = value := by
  constructor
  · intro member
    obtain ⟨⟨_, original⟩, originalMember, equal⟩ := List.mem_map.mp member
    cases equal
    exact ⟨original, originalMember, rfl⟩
  · rintro ⟨original, originalMember, rfl⟩
    exact List.mem_map_of_mem originalMember

/-- A name that two lists of members share has a value in both. -/
theorem exists_value_of_perm
    {left right : List (String × Json)}
    (sameNames : (left.map Prod.fst).Perm (right.map Prod.fst))
    {name : String}
    {value : Json}
    (member : (name, value) ∈ left) :
    ∃ other, (name, other) ∈ right := by
  have named : name ∈ right.map Prod.fst :=
    sameNames.mem_iff.mp (List.mem_map_of_mem member)
  obtain ⟨⟨_, other⟩, otherMember, rfl⟩ := List.mem_map.mp named
  exact ⟨other, otherMember⟩

/-- Members with the same names, and with values that sort alike under each
name, are the same sorted members in some order. -/
theorem map_sortMember_perm
    {left right : List (String × Json)}
    (leftNodup : (left.map Prod.fst).Nodup)
    (sameNames : (left.map Prod.fst).Perm (right.map Prod.fst))
    (sameValue : ∀ name leftValue rightValue, (name, leftValue) ∈ left →
      (name, rightValue) ∈ right → leftValue.sortMembers = rightValue.sortMembers) :
    (left.map sortMember).Perm (right.map sortMember) := by
  have nodup {members : List (String × Json)} (namesNodup : (members.map Prod.fst).Nodup) :
      (members.map sortMember).Nodup := by
    apply List.Nodup.of_map Prod.fst
    rwa [map_fst_map_sortMember]
  rw [List.perm_ext_iff_of_nodup (nodup leftNodup) (nodup (sameNames.nodup_iff.mp leftNodup))]
  rintro ⟨name, value⟩
  rw [mem_map_sortMember, mem_map_sortMember]
  constructor
  · rintro ⟨leftValue, leftMember, rfl⟩
    obtain ⟨rightValue, rightMember⟩ := exists_value_of_perm sameNames leftMember
    exact ⟨rightValue, rightMember, (sameValue _ _ _ leftMember rightMember).symm⟩
  · rintro ⟨rightValue, rightMember, rfl⟩
    obtain ⟨leftValue, leftMember⟩ := exists_value_of_perm sameNames.symm rightMember
    exact ⟨leftValue, leftMember, sameValue _ _ _ leftMember rightMember⟩

/-- Lists of members with different names have one sorted form exactly if they
have the same members. -/
theorem mergeSort_eq_iff_perm
    {left right : List (String × Json)}
    (namesNodup : (left.map Prod.fst).Nodup) :
    (left.map sortMember).mergeSort nameLe = (right.map sortMember).mergeSort nameLe ↔
      (left.map sortMember).Perm (right.map sortMember) := by
  constructor
  · intro equal
    exact (sorted_perm left).symm.trans (equal ▸ sorted_perm right)
  · intro permuted
    have sortedPerm := (sorted_perm left).trans (permuted.trans (sorted_perm right).symm)
    refine sortedPerm.eq_of_pairwise ?_ (pairwise_sorted left) (pairwise_sorted right)
    intro first second firstMember secondMember firstLe secondLe
    simp only [nameLe, decide_eq_true_eq] at firstLe secondLe
    have sameName : first.1 = second.1 := String.le_antisymm firstLe secondLe
    have firstLeft := (sorted_perm left).mem_iff.mp firstMember
    have secondLeft := permuted.mem_iff.mpr ((sorted_perm right).mem_iff.mp secondMember)
    refine List.inj_on_of_nodup_map ?_ firstLeft secondLeft sameName
    rwa [map_fst_map_sortMember]

/-- Sorting keeps a value well formed. -/
theorem WellFormed.sortMembers
    {value : Json}
    (wellFormed : value.WellFormed) :
    value.sortMembers.WellFormed := by
  induction wellFormed with
  | null => exact .null
  | bool value => exact .bool value
  | int value => exact .int value
  | float token => exact .float token
  | string text => exact .string text
  | array _ inductionHypothesis =>
      rw [sortMembers_array]
      refine .array fun item member => ?_
      obtain ⟨original, originalMember, rfl⟩ := List.mem_map.mp member
      exact inductionHypothesis original originalMember
  | @object members namesNodup _ inductionHypothesis =>
      rw [sortMembers_object]
      refine .object ?_ fun member present => ?_
      · rw [((sorted_perm members).map Prod.fst).nodup_iff, map_fst_map_sortMember]
        exact namesNodup
      · obtain ⟨original, originalMember, rfl⟩ :=
          List.mem_map.mp ((sorted_perm members).mem_iff.mp present)
        exact inductionHypothesis original originalMember

/-! ## Sorting and equivalence -/

/-- Equivalent values have one sorted form. -/
theorem Equivalent.sortMembers_eq
    {left right : Json}
    (equivalent : left.Equivalent right)
    (leftFormed : left.WellFormed)
    (rightFormed : right.WellFormed) :
    left.sortMembers = right.sortMembers := by
  induction equivalent with
  | null | bool | int | float | string => rfl
  | @array left right sameLength _ inductionHypothesis =>
      cases leftFormed with
      | array leftItems =>
      cases rightFormed with
      | array rightItems =>
      rw [sortMembers_array, sortMembers_array]
      congr 1
      rw [← List.forall₂_eq_eq_eq, List.forall₂_map_left_iff, List.forall₂_map_right_iff,
        List.forall₂_iff_zip]
      refine ⟨sameLength, fun {first second} member => ?_⟩
      have sides := List.of_mem_zip member
      exact inductionHypothesis (first, second) member
        (leftItems first sides.1) (rightItems second sides.2)
  | @object left right sameNames _ inductionHypothesis =>
      cases leftFormed with
      | object leftNodup leftValues =>
      cases rightFormed with
      | object rightNodup rightValues =>
      rw [sortMembers_object, sortMembers_object, (mergeSort_eq_iff_perm leftNodup).mpr]
      refine map_sortMember_perm leftNodup sameNames ?_
      intro name leftValue rightValue leftMember rightMember
      exact inductionHypothesis name leftValue rightValue leftMember rightMember
        (leftValues _ leftMember) (rightValues _ rightMember)

/-- Values with one sorted form are equivalent. -/
theorem Equivalent.of_sortMembers_eq
    {left right : Json}
    (leftFormed : left.WellFormed)
    (equal : left.sortMembers = right.sortMembers) :
    left.Equivalent right := by
  induction leftFormed generalizing right with
  | null => cases right <;> simp_all [sortMembers, Equivalent.null]
  | bool value => cases right <;> simp_all [sortMembers, Equivalent.bool]
  | int value => cases right <;> simp_all [sortMembers, Equivalent.int]
  | float token => cases right <;> simp_all [sortMembers, Equivalent.float]
  | string text => cases right <;> simp_all [sortMembers, Equivalent.string]
  | @array left _ inductionHypothesis =>
      cases right with
      | null | bool | int | float | string | object => simp [sortMembers] at equal
      | array right =>
      rw [sortMembers_array, sortMembers_array, array.injEq] at equal
      have sameLength : left.length = right.length := by
        simpa using congrArg List.length equal
      refine .array sameLength fun ⟨first, second⟩ member => ?_
      rw [← List.forall₂_eq_eq_eq, List.forall₂_map_left_iff, List.forall₂_map_right_iff,
        List.forall₂_iff_zip] at equal
      exact inductionHypothesis first (List.of_mem_zip member).1 (equal.2 member)
  | @object left leftNodup _ inductionHypothesis =>
      cases right with
      | null | bool | int | float | string | array => simp [sortMembers] at equal
      | object right =>
      rw [sortMembers_object, sortMembers_object, object.injEq,
        mergeSort_eq_iff_perm leftNodup] at equal
      have sameNames : (left.map Prod.fst).Perm (right.map Prod.fst) := by
        simpa only [map_fst_map_sortMember] using equal.map Prod.fst
      refine .object sameNames fun name leftValue rightValue leftMember rightMember => ?_
      apply inductionHypothesis (name, leftValue) leftMember
      -- Both sorted values stand under the one name among the sorted members on the right.
      have rightNodup : ((right.map sortMember).map Prod.fst).Nodup := by
        rw [map_fst_map_sortMember]
        exact sameNames.nodup_iff.mp leftNodup
      exact value_unique rightNodup
        (equal.mem_iff.mp (mem_map_sortMember.mpr ⟨leftValue, leftMember, rfl⟩))
        (mem_map_sortMember.mpr ⟨rightValue, rightMember, rfl⟩)

/-- Sorting picks one value out of each class of equivalent values. -/
theorem sortMembers_eq_iff
    {left right : Json}
    (leftFormed : left.WellFormed)
    (rightFormed : right.WellFormed) :
    left.sortMembers = right.sortMembers ↔ left.Equivalent right :=
  ⟨.of_sortMembers_eq leftFormed,
    fun equivalent => equivalent.sortMembers_eq leftFormed rightFormed⟩

end Json
end Baseline
