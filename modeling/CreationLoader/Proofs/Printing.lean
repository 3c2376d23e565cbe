import CreationLoader.Proofs.Integers
import CreationLoader.Proofs.WellFormed

/-!
# What is written for a value writes it

The compact text of a value is one of its texts: every character of a string is written in one of
the ways in which it may be written, and items and members are separated as they have to be.
-/

namespace CreationLoader.Json

theorem hexValue?_digitChar : ∀ n < 16, hexValue? n.digitChar = some n := by decide

theorem hexDigits_of_lt {n : Nat} (h : n < 0x10) : Text.hexDigits n = [n.digitChar] :=
  Nat.toDigits_of_lt_base h

theorem hexDigits_of_teen {n : Nat} (h₁ : 0x10 ≤ n) (h₂ : n < 0x20) :
    Text.hexDigits n = ['1', (n % 16).digitChar] := by
  have hdiv : n / 16 = 1 := by omega
  rw [Text.hexDigits, Nat.toDigits_of_base_le (by decide) h₁, hdiv]
  rfl

/-- The code unit of a control character, with the zeros that its one or two digits lack. -/
theorem unitSpelled_hexDigits {n : Nat} {zeros : List Char} (h : n < 0x20)
    (hzeros : zeros = if n < 0x10 then ['0', '0', '0'] else ['0', '0']) :
    UnitSpelled n (zeros ++ Text.hexDigits n) := by
  have zero : hexValue? '0' = some 0 := rfl
  have one : hexValue? '1' = some 1 := rfl
  subst hzeros
  split
  next hn =>
    rw [hexDigits_of_lt hn]
    have hunit := UnitSpelled.digits zero zero zero (hexValue?_digitChar n hn)
    simpa using hunit
  next hn =>
    have hteen : 0x10 ≤ n := by omega
    have hlast := hexValue?_digitChar (n % 16) (Nat.mod_lt n (by decide))
    have hunit := UnitSpelled.digits zero zero one hlast
    have hvalue : ((0 * 16 + 0) * 16 + 1) * 16 + n % 16 = n := by omega
    rw [hvalue] at hunit
    rw [hexDigits_of_teen hteen h]
    exact hunit

theorem charSpelled_unit {c : Char} {digits : List Char} (h : UnitSpelled c.toNat digits)
    (hc : c.toNat < 0x20) : CharSpelled c ('\\' :: 'u' :: digits) := by
  have hunit := CharSpelled.unit h (.inl (by omega))
  rwa [Char.ofNat_toNat] at hunit

/-- A character is escaped in one of the ways in which it may be written. -/
theorem charSpelled_escaped (c : Char) : CharSpelled c (escaped c) := by
  unfold escaped
  split
  · exact .short (by decide)
  · exact .short (by decide)
  · exact .short (by decide)
  · exact .short (by decide)
  · exact .short (by decide)
  · exact .short (by decide)
  · exact .short (by decide)
  next c quote slash _ _ _ _ _ =>
    split
    next h => exact charSpelled_unit (unitSpelled_hexDigits (by omega) (if_pos h).symm) (by omega)
    next h =>
      split
      next h' => exact charSpelled_unit (unitSpelled_hexDigits h' (if_neg h).symm) h'
      next h' => exact .plain (by omega) quote slash

theorem charsSpelled_escaped (cs : List Char) : CharsSpelled cs (cs.flatMap escaped) := by
  induction cs with
  | nil => exact .nil
  | cons c cs ih => exact .cons (charSpelled_escaped c) ih

/-- What is written before an item or a member. -/
def lead (first : Bool) : List Char := if first then [] else [',']

theorem lead_separates (first : Bool) : Lead first (lead first) := by
  cases first
  · exact Lead.comma Blank.nil Blank.nil
  · exact .first .nil

/-- Items or members as they are written, the first of them or a later one at the head. -/
def separated {α : Type} (chars : α → List Char) : (first : Bool) → List α → List Char
  | _, [] => []
  | first, a :: rest => lead first ++ (chars a ++ separated chars false rest)

theorem length_le_separated {α : Type} {chars : α → List Char} {items : List α}
    (h : ∀ a ∈ items, 0 < (chars a).length) (first : Bool) :
    items.length ≤ (separated chars first items).length := by
  induction items generalizing first with
  | nil => exact Nat.le_refl 0
  | cons a items ih =>
    obtain ⟨ha, hitems⟩ := List.forall_mem_cons.mp h
    have hrest := ih hitems false
    simp only [separated, List.length_append, List.length_cons]
    omega

theorem itemChars_eq (items : List Value) : itemChars items = separated Value.chars true items := by
  cases items with
  | nil => rfl
  | cons v items =>
    induction items generalizing v with
    | nil => exact (List.append_nil v.chars).symm
    | cons w items ih =>
      rw [itemChars, ih]
      rfl

def memberText (e : String × Value) : List Char := quoted e.1 ++ ':' :: e.2.chars

theorem memberChars_eq (members : List (String × Value)) :
    memberChars members = separated memberText true members := by
  cases members with
  | nil => rfl
  | cons e members =>
    induction members generalizing e with
    | nil => exact (List.append_nil (memberText e)).symm
    | cons f members ih =>
      rw [memberChars, ih]
      simp [separated, memberText, lead]

theorem itemsSpelled_separated {items : List Value} (h : ∀ v ∈ items, v.Spelled v.chars)
    (first : Bool) : ItemsSpelled first items (separated Value.chars first items) := by
  induction items generalizing first with
  | nil => exact .nil .nil
  | cons v items ih =>
    obtain ⟨hv, hitems⟩ := List.forall_mem_cons.mp h
    exact .cons (lead_separates first) hv (ih hitems false)

theorem membersSpelled_separated {members : List (String × Value)}
    (h : ∀ e ∈ members, e.2.Spelled e.2.chars) (first : Bool) :
    MembersSpelled first members (separated memberText first members) := by
  induction members generalizing first with
  | nil => exact .nil .nil
  | cons e members ih =>
    obtain ⟨he, hmembers⟩ := List.forall_mem_cons.mp h
    have hname := charsSpelled_escaped e.1.toList
    have hmember := MembersSpelled.cons (lead_separates first) hname .nil .nil he
      (ih hmembers false)
    simpa [separated, memberText, quoted] using hmember

/-- What is written for a value writes it. -/
theorem Value.WellFormed.spelled {v : Value} (h : v.WellFormed Number.Is64Bit) :
    v.Spelled v.chars := by
  induction h with
  | null => exact .null
  | bool b => cases b <;> exact .bool _
  | @number n hn =>
    cases n with
    | integer i =>
      apply Value.Spelled.number (numeral_integerText i)
      intro m hm
      have hread := readScalar_integerText hn stops_nil
      rw [List.append_nil] at hread
      simpa using hm.symm.trans hread
    | float x => exact hn.elim
  | string s => exact .string (charsSpelled_escaped s.toList)
  | @array items _ ih =>
    rw [chars, itemChars_eq]
    exact .array (itemsSpelled_separated ih true)
  | @object members _ _ ih =>
    rw [chars, memberChars_eq]
    exact .object (membersSpelled_separated ih true)

theorem Value.WellFormed.isText {v : Value} (h : v.WellFormed Number.Is64Bit) :
    v.IsText v.text :=
  ⟨[], v.chars, [], .nil, h.spelled, .nil, by rw [text, String.toList_ofList]; simp⟩

end CreationLoader.Json
