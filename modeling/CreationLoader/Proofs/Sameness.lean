import CreationLoader.Proofs.WellFormed
import Mathlib.Data.List.Perm.Subperm

/-!
# When JSON parameters are the same

Two values are alike if they differ in nothing but the order in which the members of objects
stand, at whatever depth. Comparing two well-formed values finds out whether they are alike. So
comparing parameters is an equivalence, and merging respects it.
-/

namespace CreationLoader

namespace Association
variable {α : Type} {xs ys : List (String × α)}

/-- Two lists in which each name stands once are compared by looking the entries of the first up
in the second: if they are equally long, that finds the names of the second as well. -/
theorem all_lookup_iff (eq : α → α → Bool) (hx : (xs.map Prod.fst).Nodup)
    (hy : (ys.map Prod.fst).Nodup) :
    (xs.length == ys.length && xs.all fun e => (ys.lookup e.1).any (eq e.2)) = true ↔
      (∀ name, name ∈ xs.map Prod.fst ↔ name ∈ ys.map Prod.fst) ∧
      ∀ name v w, xs.lookup name = some v → ys.lookup name = some w → eq v w = true := by
  simp only [Bool.and_eq_true, beq_iff_eq, List.all_eq_true, Option.any_eq_true]
  constructor
  · rintro ⟨hlength, hall⟩
    have hsub : xs.map Prod.fst ⊆ ys.map Prod.fst := by
      intro name hname
      obtain ⟨e, he, rfl⟩ := List.mem_map.mp hname
      obtain ⟨w, hw, -⟩ := hall e he
      exact mem_names_iff.mpr ⟨w, hw⟩
    have hperm : (xs.map Prod.fst).Perm (ys.map Prod.fst) :=
      (List.subperm_of_subset hx hsub).perm_of_length_le (by simp [hlength])
    refine ⟨fun name => hperm.mem_iff, fun name v w hv hw => ?_⟩
    obtain ⟨w', hw', heq⟩ := hall (name, v) (mem_of_lookup hv)
    obtain rfl : w' = w := Option.some.inj (hw'.symm.trans hw)
    exact heq
  · rintro ⟨hnames, hvalues⟩
    have hperm : (xs.map Prod.fst).Perm (ys.map Prod.fst) :=
      (List.perm_ext_iff_of_nodup hx hy).mpr hnames
    refine ⟨by simpa using hperm.length_eq, fun e he => ?_⟩
    obtain ⟨w, hw⟩ := mem_names_iff.mp ((hnames e.1).mp (List.mem_map_of_mem he))
    exact ⟨w, hw, hvalues e.1 e.2 w (lookup_of_mem he hx) hw⟩

end Association

namespace Params
open Association
variable {α : Type} {eq : α → α → Bool} {p q : Params α}

theorem sameBy_iff :
    p.sameBy eq q = true ↔ (∀ name, name ∈ p.names ↔ name ∈ q.names) ∧
      ∀ name v w, p.get? name = some v → q.get? name = some w → eq v w = true :=
  all_lookup_iff eq p.nodup q.nodup

theorem sameBy_merge {d₁ d₂ o₁ o₂ : Params α} (hd : d₁.sameBy eq d₂ = true)
    (ho : o₁.sameBy eq o₂ = true) :
    (d₁.merge o₁).params.sameBy eq (d₂.merge o₂).params = true := by
  obtain ⟨hdnames, hdvalues⟩ := sameBy_iff.mp hd
  obtain ⟨honames, hovalues⟩ := sameBy_iff.mp ho
  refine sameBy_iff.mpr ⟨fun name => ?_, fun name v w hv hw => ?_⟩
  · rw [merge_names, merge_names]
    exact hdnames name
  · rw [merge_get?] at hv hw
    obtain ⟨v', hv', rfl⟩ := Option.map_eq_some_iff.mp hv
    obtain ⟨w', hw', rfl⟩ := Option.map_eq_some_iff.mp hw
    cases hov : o₁.get? name with
    | none =>
      have how : o₂.get? name = none := by
        refine lookup_eq_none fun hname => ?_
        obtain ⟨v, hv⟩ := mem_names_iff.mp ((honames name).mpr hname)
        exact nomatch hov.symm.trans hv
      rw [how]
      exact hdvalues name v' w' hv' hw'
    | some v =>
      obtain ⟨w, how⟩ : ∃ w, o₂.get? name = some w :=
        mem_names_iff.mp ((honames name).mp (mem_names_iff.mpr ⟨v, hov⟩))
      rw [how]
      exact hovalues name v w hov how

end Params

namespace Json

namespace Value
open Association

/-- The values differ in nothing but the order of members. Lists are alike item by item, and
objects are alike if they have the same names and alike values under them. -/
inductive Alike : Value → Value → Prop
  | null : Alike .null .null
  | bool (b : Bool) : Alike (.bool b) (.bool b)
  | integer (i : Int) : Alike (.number (.integer i)) (.number (.integer i))
  | string (s : String) : Alike (.string s) (.string s)
  | array {xs ys : List Value} : xs.length = ys.length →
      (∀ (i : Nat) (x y : Value), xs[i]? = some x → ys[i]? = some y → Alike x y) →
      Alike (.array xs) (.array ys)
  | object {ms ns : List (String × Value)} :
      (∀ name, name ∈ ms.map Prod.fst ↔ name ∈ ns.map Prod.fst) →
      (∀ name v w, ms.lookup name = some v → ns.lookup name = some w → Alike v w) →
      Alike (.object ms) (.object ns)

theorem Alike.refl {v : Value} (hv : v.WellFormed Number.IsInteger) : v.Alike v := by
  induction hv with
  | null => exact .null
  | bool b => exact .bool b
  | @number n hn =>
    cases n with
    | integer i => exact .integer i
    | float x => exact hn.elim
  | string s => exact .string s
  | array _ ih =>
    refine .array rfl fun i x y hx hy => ?_
    obtain rfl : x = y := Option.some.inj (hx.symm.trans hy)
    exact ih x (List.mem_of_getElem? hx)
  | object _ _ ih =>
    refine .object (fun _ => Iff.rfl) fun name v w hv hw => ?_
    obtain rfl : v = w := Option.some.inj (hv.symm.trans hw)
    exact ih (name, v) (mem_of_lookup hv)

theorem Alike.symm {v w : Value} (h : v.Alike w) : w.Alike v := by
  induction h with
  | null => exact .null
  | bool b => exact .bool b
  | integer i => exact .integer i
  | string s => exact .string s
  | array hlength _ ih => exact .array hlength.symm fun i x y hx hy => ih i y x hy hx
  | object hnames _ ih =>
    exact .object (fun name => (hnames name).symm) fun name v w hv hw => ih name w v hw hv

theorem Alike.trans {u v w : Value} (h : u.Alike v) (h' : v.Alike w) : u.Alike w := by
  induction h generalizing w with
  | null | bool | integer | string => exact h'
  | @array xs ys hlength _ ih =>
    cases h' with
    | @array _ zs hlength' halike =>
      refine .array (hlength.trans hlength') fun i x z hx hz => ?_
      obtain ⟨hi, -⟩ := List.getElem?_eq_some_iff.mp hx
      obtain ⟨y, hy⟩ : ∃ y, ys[i]? = some y := ⟨_, List.getElem?_eq_getElem (hlength ▸ hi)⟩
      exact ih i x y hx hy (halike i y z hy hz)
  | @object ls ms hnames _ ih =>
    cases h' with
    | @object _ ns hnames' halike =>
      refine .object (fun name => (hnames name).trans (hnames' name)) fun name u w hu hw => ?_
      obtain ⟨v, hv⟩ := mem_names_iff.mp ((hnames name).mp (mem_names_iff.mpr ⟨u, hu⟩))
      exact ih name u v hu hv (halike name v w hv hw)

end Value

theorem sameItems_iff {xs ys : List Value} :
    sameItems xs ys = true ↔ xs.length = ys.length ∧
      ∀ (i : Nat) (x y : Value), xs[i]? = some x → ys[i]? = some y → x.same y = true := by
  induction xs generalizing ys with
  | nil => cases ys <;> simp [sameItems]
  | cons x xs ih =>
    cases ys with
    | nil => simp [sameItems]
    | cons y ys =>
      rw [sameItems, Bool.and_eq_true, ih, List.length_cons, List.length_cons, Nat.succ_inj]
      constructor
      · rintro ⟨hxy, hlength, hrest⟩
        refine ⟨hlength, fun i x' y' hx hy => ?_⟩
        cases i with
        | zero =>
          obtain rfl : x = x' := Option.some.inj hx
          obtain rfl : y = y' := Option.some.inj hy
          exact hxy
        | succ i => exact hrest i x' y' hx hy
      · rintro ⟨hlength, hall⟩
        exact ⟨hall 0 x y rfl rfl, hlength, fun i x' y' hx hy => hall (i + 1) x' y' hx hy⟩

theorem sameMembers_eq (ms ns : List (String × Value)) :
    sameMembers ms ns = ms.all fun e => (ns.lookup e.1).any e.2.same := by
  induction ms with
  | nil => rfl
  | cons e rest ih =>
    obtain ⟨name, value⟩ := e
    rw [sameMembers, List.all_cons, ih]
    cases ns.lookup name <;> rfl

namespace Value
open Association

theorem same_array {xs ys : List Value} :
    (array xs).same (array ys) = true ↔ xs.length = ys.length ∧
      ∀ (i : Nat) (x y : Value), xs[i]? = some x → ys[i]? = some y → x.same y = true := by
  rw [same, sameItems_iff]

theorem same_object {ms ns : List (String × Value)} (hm : (ms.map Prod.fst).Nodup)
    (hn : (ns.map Prod.fst).Nodup) :
    (object ms).same (object ns) = true ↔
      (∀ name, name ∈ ms.map Prod.fst ↔ name ∈ ns.map Prod.fst) ∧
      ∀ name v w, ms.lookup name = some v → ns.lookup name = some w → v.same w = true := by
  rw [same, sameMembers_eq]
  exact all_lookup_iff same hm hn

variable {numbers : Number → Prop} {v w : Value}

theorem alike_of_same (hv : v.WellFormed Number.IsInteger) (hw : w.WellFormed Number.IsInteger)
    (h : v.same w = true) : v.Alike w := by
  induction hv generalizing w with
  | null =>
    cases hw with
    | null => exact .null
    | _ => exact nomatch h
  | bool b =>
    cases hw with
    | bool b' =>
      obtain rfl : b = b' := beq_iff_eq.mp h
      exact .bool b
    | _ => exact nomatch h
  | @number m hm =>
    cases hw with
    | @number n hn =>
      cases m with
      | float x => exact hm.elim
      | integer i =>
        cases n with
        | float y => exact hn.elim
        | integer j =>
          obtain rfl : i = j := beq_iff_eq.mp h
          exact .integer i
    | _ => exact nomatch h
  | string s =>
    cases hw with
    | string t =>
      obtain rfl : s = t := beq_iff_eq.mp h
      exact .string s
    | _ => exact nomatch h
  | array _ ih =>
    cases hw with
    | array hys =>
      obtain ⟨hlength, hitems⟩ := same_array.mp h
      refine .array hlength fun i x y hx hy => ?_
      exact ih x (List.mem_of_getElem? hx) (hys y (List.mem_of_getElem? hy)) (hitems i x y hx hy)
    | _ => exact nomatch h
  | object hm _ ih =>
    cases hw with
    | object hn hns =>
      obtain ⟨hnames, hvalues⟩ := (same_object hm hn).mp h
      refine .object hnames fun name v w hv hw => ?_
      exact ih _ (mem_of_lookup hv) (hns _ (mem_of_lookup hw)) (hvalues name v w hv hw)
    | _ => exact nomatch h

theorem Alike.same (h : v.Alike w) (hv : v.WellFormed numbers) (hw : w.WellFormed numbers) :
    v.same w = true := by
  induction h with
  | null => rfl
  | bool b => exact beq_self_eq_true b
  | integer i => exact beq_self_eq_true i
  | string s => exact beq_self_eq_true s
  | array hlength _ ih =>
    cases hv with
    | array hxs =>
      cases hw with
      | array hys =>
        refine same_array.mpr ⟨hlength, fun i x y hx hy => ?_⟩
        exact ih i x y hx hy (hxs x (List.mem_of_getElem? hx)) (hys y (List.mem_of_getElem? hy))
  | object hnames _ ih =>
    cases hv with
    | object hm hms =>
      cases hw with
      | object hn hns =>
        refine (same_object hm hn).mpr ⟨hnames, fun name v w hv hw => ?_⟩
        exact ih name v w hv hw (hms _ (mem_of_lookup hv)) (hns _ (mem_of_lookup hw))

end Value

end Json

namespace Params
open Json (Number Value)

/-- Parameters in which all numbers are integers. -/
abbrev OfIntegers := { p : Params Value // p.WellFormed Number.IsInteger }

theorem same_iff_alike {p q : Params Value} (hp : p.WellFormed Number.IsInteger)
    (hq : q.WellFormed Number.IsInteger) :
    p.same q = true ↔ (Value.object p.entries).Alike (.object q.entries) := by
  have hp' : (Value.object p.entries).WellFormed Number.IsInteger := .object p.nodup hp
  have hq' : (Value.object q.entries).WellFormed Number.IsInteger := .object q.nodup hq
  have hsame : p.same q = (Value.object p.entries).same (.object q.entries) := by
    rw [Value.same, Json.sameMembers_eq]
    rfl
  rw [hsame]
  exact ⟨Value.alike_of_same hp' hq', fun h => h.same hp' hq'⟩

/-- Comparing JSON parameters whose numbers are integers is an equivalence. Two sets are the same
if and only if they have the same names, with values that differ in nothing but the order of
members. If the defaults are the same and the overrides are the same, so is what they are merged
to. -/
theorem same_is_equivalence_and_merge_respects_it :
    Equivalence (fun p q : OfIntegers => p.1.same q.1 = true) ∧
    (∀ p q : OfIntegers, p.1.same q.1 = true ↔
      (∀ name, name ∈ p.1.names ↔ name ∈ q.1.names) ∧
      ∀ name v w, p.1.get? name = some v → q.1.get? name = some w → v.Alike w) ∧
    ∀ d₁ d₂ o₁ o₂ : Params Value, d₁.same d₂ = true → o₁.same o₂ = true →
      (d₁.merge o₁).params.same (d₂.merge o₂).params = true := by
  refine ⟨⟨fun p => ?_, fun {p q} h => ?_, fun {p q r} h h' => ?_⟩, fun p q => ?_,
    fun d₁ d₂ o₁ o₂ hd ho => sameBy_merge hd ho⟩
  · exact (same_iff_alike p.2 p.2).mpr (Value.Alike.refl (.object p.1.nodup p.2))
  · exact (same_iff_alike q.2 p.2).mpr ((same_iff_alike p.2 q.2).mp h).symm
  · exact (same_iff_alike p.2 r.2).mpr
      (((same_iff_alike p.2 q.2).mp h).trans ((same_iff_alike q.2 r.2).mp h'))
  · rw [same_iff_alike p.2 q.2]
    constructor
    · rintro (_ | _ | _ | _ | _ | ⟨hnames, hvalues⟩)
      exact ⟨hnames, hvalues⟩
    · rintro ⟨hnames, hvalues⟩
      exact .object hnames hvalues

/-- Defaults and overrides are given twice, with members in different orders at two depths. -/
theorem reordered_members_merge_to_same :
    let style (members : List (String × Value)) : Value := .object members
    let z : String × Value := ("z", .number (.integer 1))
    let a : String × Value := ("a", .array [.null, .string "b"])
    let d₁ : Params Value := ⟨[("size", .null), ("style", style [z, a])], by decide⟩
    let d₂ : Params Value := ⟨[("style", style [a, z]), ("size", .null)], by decide⟩
    let o₁ : Params Value := ⟨[("size", style [a, z]), ("other", .bool true)], by decide⟩
    let o₂ : Params Value := ⟨[("other", .bool true), ("size", style [z, a])], by decide⟩
    d₁.same d₂ = true ∧ o₁.same o₂ = true ∧
      (d₁.merge o₁).params.same (d₂.merge o₂).params = true := by
  intro style z a d₁ d₂ o₁ o₂
  have hd : d₁.same d₂ = true := by decide +kernel
  have ho : o₁.same o₂ = true := by decide +kernel
  exact ⟨hd, ho, same_is_equivalence_and_merge_respects_it.2.2 d₁ d₂ o₁ o₂ hd ho⟩

end Params

end CreationLoader
