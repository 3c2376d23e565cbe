import CreationLoader.Script.Value
import Mathlib.Data.List.Nodup

/-!
# The order in which scripts see properties

Names that are array indices are seen first, by number, and then the others. Properties that are
set on a new object in an order in which they have been seen are seen on it in this same order.
-/

namespace CreationLoader.Script
open Decimal

/-- A name that is seen before another: if the other is an array index, it is one itself, and is
not above it. -/
def SeenBefore (a b : String) : Prop :=
  ∀ n, arrayIndex? b = some n → ∃ m, arrayIndex? a = some m ∧ m ≤ n

/-- Names in an order in which they can be seen. -/
def Ordered (names : List String) : Prop := names.Pairwise SeenBefore

theorem seenBefore_of_not_index {a b : String} (h : arrayIndex? b = none) : SeenBefore a b := by
  intro n hn
  rw [h] at hn
  exact nomatch hn

theorem not_index_of_seenBefore {a b : String} (h : SeenBefore a b) (ha : arrayIndex? a = none) :
    arrayIndex? b = none := by
  cases hb : arrayIndex? b with
  | none => rfl
  | some n =>
    obtain ⟨m, hm, -⟩ := h n hb
    exact nomatch ha.symm.trans hm

section
variable {members : List (String × Value)}

def atIndex? (e : String × Value) : Option (Nat × String × Value) :=
  (arrayIndex? e.1).map fun n => (n, e)

theorem map_snd_atIndex? (members : List (String × Value)) :
    (members.filterMap atIndex?).map Prod.snd =
      members.filter fun e => (arrayIndex? e.1).isSome := by
  induction members with
  | nil => rfl
  | cons e rest ih =>
    cases he : arrayIndex? e.1 with
    | none => simpa [atIndex?, he] using ih
    | some n => simpa [atIndex?, he] using ih

theorem enumerated_eq (members : List (String × Value)) :
    enumerated members =
      ((members.filterMap atIndex?).mergeSort fun a b => a.1 ≤ b.1).map Prod.snd ++
        members.filter fun e => (arrayIndex? e.1).isNone := rfl

theorem enumerated_perm (members : List (String × Value)) : (enumerated members).Perm members := by
  rw [enumerated_eq]
  have hsort := (List.mergeSort_perm (members.filterMap atIndex?) fun a b => a.1 ≤ b.1).map Prod.snd
  rw [map_snd_atIndex?] at hsort
  have hnone : (fun e : String × Value => (arrayIndex? e.1).isNone) =
      fun e => !(arrayIndex? e.1).isSome := by
    funext e
    simp
  refine (hsort.append_right _).trans ?_
  rw [hnone]
  exact List.filter_append_perm _ members

/-- What stands in such an order is left in it. -/
theorem enumerated_of_ordered (h : Ordered (members.map Prod.fst)) :
    enumerated members = members := by
  have hpairs : members.Pairwise fun e f => SeenBefore e.1 f.1 := List.pairwise_map.mp h
  have hsorted : (members.filterMap atIndex?).Pairwise fun a b => decide (a.1 ≤ b.1) = true := by
    refine List.pairwise_filterMap.mpr (hpairs.imp ?_)
    intro e f hef a ha b hb
    obtain ⟨m, hm, rfl⟩ := Option.map_eq_some_iff.mp ha
    obtain ⟨n, hn, rfl⟩ := Option.map_eq_some_iff.mp hb
    obtain ⟨m', hm', hle⟩ := hef n hn
    obtain rfl := Option.some.inj (hm.symm.trans hm')
    simpa using hle
  rw [enumerated_eq, List.mergeSort_of_pairwise hsorted, map_snd_atIndex?]
  -- The indices form an initial part, and the other names the rest.
  clear hsorted h
  induction members with
  | nil => rfl
  | cons e rest ih =>
    obtain ⟨hhead, htail⟩ := List.pairwise_cons.mp hpairs
    cases he : arrayIndex? e.1 with
    | some n => simpa [he] using ih htail
    | none =>
      have hnone : ∀ f ∈ rest, arrayIndex? f.1 = none := fun f hf =>
        not_index_of_seenBefore (hhead f hf) he
      have hindices : rest.filter (fun f => (arrayIndex? f.1).isSome) = [] := by
        simpa using hnone
      have hothers : rest.filter (fun f => (arrayIndex? f.1).isNone) = rest := by
        simpa using hnone
      simp [he, hindices, hothers]

theorem ordered_enumerated (members : List (String × Value)) :
    Ordered ((enumerated members).map Prod.fst) := by
  have hle : ((members.filterMap atIndex?).mergeSort fun a b => decide (a.1 ≤ b.1)).Pairwise
      fun a b => decide (a.1 ≤ b.1) = true := by
    apply List.pairwise_mergeSort
    · intro a b c hab hbc
      simp only [decide_eq_true_eq] at *
      omega
    · intro a b
      simp only [Bool.or_eq_true, decide_eq_true_eq]
      omega
  have hindex : ∀ a ∈ (members.filterMap atIndex?).mergeSort (fun a b => decide (a.1 ≤ b.1)),
      arrayIndex? a.2.1 = some a.1 := by
    intro a ha
    obtain ⟨e, -, he⟩ := List.mem_filterMap.mp ((List.mergeSort_perm _ _).mem_iff.mp ha)
    obtain ⟨n, hn, rfl⟩ := Option.map_eq_some_iff.mp he
    exact hn
  rw [Ordered, List.pairwise_map, enumerated_eq, List.pairwise_append]
  refine ⟨List.pairwise_map.mpr ?_, ?_, ?_⟩
  · refine hle.imp_of_mem ?_
    intro a b ha hb hab n hn
    have hbn : b.1 = n := Option.some.inj ((hindex b hb).symm.trans hn)
    exact ⟨a.1, hindex a ha, hbn ▸ of_decide_eq_true hab⟩
  · refine List.Pairwise.imp_of_mem (R := fun _ _ => True) ?_ (List.pairwise_of_forall (by simp))
    intro e f _ hf _
    exact seenBefore_of_not_index (by simpa using (List.mem_filter.mp hf).2)
  · intro e _ f hf
    exact seenBefore_of_not_index (by simpa using (List.mem_filter.mp hf).2)

end

theorem toList_toString (n : Nat) : (toString n).toList = digitsOf n := by
  rw [Nat.toString_eq_repr, Nat.toList_repr, digitsOf]

/-- The digits of a number are an array index, unless the number is too large for one. -/
theorem arrayIndex?_toString (n : Nat) :
    arrayIndex? (toString n) = if n < Nat.pow 2 32 - 1 then some n else none := by
  have hdigits : (digitsOf n).all (fun c => decide ('0' ≤ c ∧ c ≤ '9')) = true := by
    rw [List.all_eq_true]
    exact fun c hc => decide_eq_true (mem_digitsOf hc)
  have hzeros : ¬ ((digitsOf n).length > 1 ∧ (digitsOf n).head? = some '0') := by
    rintro ⟨hlength, hzero⟩
    rcases Nat.eq_zero_or_pos n with rfl | hpos
    · exact absurd hlength (by decide)
    · exact head?_digitsOf hpos hzero
  have hvalue : (digitsOf n).foldl (fun n c => n * 10 + (c.toNat - '0'.toNat)) 0 = n := by
    have hof := ofDigitChars_digitsOf n
    simpa only [Nat.ofDigitChars, Nat.mul_comm 10] using hof
  simp only [arrayIndex?, toList_toString, hdigits, hvalue]
  rw [if_neg (by simp [digitsOf_ne_nil]), if_neg hzeros]

theorem map_fst_indexed (items : List Value) :
    (indexed items).map Prod.fst = (List.range items.length).map fun n => toString n := by
  rw [indexed, List.map_map, List.range_eq_range', ← List.zipIdx_map_snd 0 items, List.map_map]
  rfl

theorem ordered_indexed (items : List Value) : Ordered ((indexed items).map Prod.fst) := by
  rw [map_fst_indexed, Ordered, List.pairwise_map]
  refine List.pairwise_lt_range.imp ?_
  intro m n hmn k hk
  rw [arrayIndex?_toString] at hk ⊢
  split at hk
  · obtain rfl := Option.some.inj hk
    exact ⟨m, if_pos (by omega), Nat.le_of_lt hmn⟩
  · exact nomatch hk

theorem nodup_indexed (items : List Value) : ((indexed items).map Prod.fst).Nodup := by
  rw [map_fst_indexed]
  refine List.Nodup.map ?_ List.nodup_range
  intro m n hmn
  have hdigits : digitsOf m = digitsOf n := by
    simpa only [toList_toString] using congrArg String.toList hmn
  rw [← ofDigitChars_digitsOf m, hdigits, ofDigitChars_digitsOf]

namespace Heap

theorem entries_cases (heap : Heap) (v : Value) :
    (∃ members : Params Value, heap.entries v = enumerated members.entries) ∨
      ∃ items, heap.entries v = indexed items := by
  unfold entries
  split
  next s => exact .inr ⟨_, rfl⟩
  next =>
    split
    next members _ => exact .inl ⟨members, rfl⟩
    next items _ => exact .inr ⟨items, rfl⟩
    next => exact .inr ⟨[], rfl⟩

theorem ordered_entries (heap : Heap) (v : Value) : Ordered ((heap.entries v).map Prod.fst) := by
  rcases heap.entries_cases v with ⟨members, h⟩ | ⟨items, h⟩
  · exact h ▸ ordered_enumerated members.entries
  · exact h ▸ ordered_indexed items

theorem nodup_entries (heap : Heap) (v : Value) : ((heap.entries v).map Prod.fst).Nodup := by
  rcases heap.entries_cases v with ⟨members, h⟩ | ⟨items, h⟩
  · rw [h]
    exact ((enumerated_perm members.entries).map Prod.fst).nodup_iff.mpr members.nodup
  · exact h ▸ nodup_indexed items

end Heap

end CreationLoader.Script
