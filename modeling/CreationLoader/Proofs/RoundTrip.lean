import CreationLoader.Proofs.ConfigForms
import CreationLoader.Proofs.Printing

/-!
# What is written is read back

The compact text of a value is read to its end and gives the value again, unless more lists and
objects stand inside each other than the reader may open. Nothing else can go wrong, so that the
outcome is known for every value: it depends on the levels of the value alone.
-/

namespace CreationLoader.Json

mutual

/-- How many lists and objects stand inside each other in a value. -/
def Value.levels : Value → Nat
  | .array items => itemLevels items + 1
  | .object members => memberLevels members + 1
  | _ => 0

def itemLevels : List Value → Nat
  | [] => 0
  | v :: rest => max v.levels (itemLevels rest)

def memberLevels : List (String × Value) → Nat
  | [] => 0
  | (_, v) :: rest => max v.levels (memberLevels rest)

end

/-- What a reader gives, or why it gives nothing. Where it has found the fault is left aside. -/
def told {α : Type} (x : Except Fault α) : Except Cause α := x.mapError Fault.cause

theorem told_bind {α β : Type} (x : Except Fault α) (f : α → Except Fault β) :
    told (x >>= f) = told x >>= fun a => told (f a) := by
  cases x <;> rfl

/-- What is read of so many levels if only some may be opened. -/
def limited {α : Type} (levels depth : Nat) (a : α) : Except Cause α :=
  if levels ≤ depth then .ok a else .error .nestedTooDeep

theorem limited_map {α β : Type} (levels depth : Nat) (a : α) (f : α → β) :
    (limited levels depth a >>= fun a => told (.ok (f a))) = limited levels depth (f a) := by
  unfold limited
  split <;> rfl

/-- Of two parts that are read one after the other, neither may have too many levels. -/
theorem limited_andThen {α β : Type} {m n depth : Nat} {a : α} {b : β}
    {f : α → Except Cause β} (h : f a = limited n depth b) :
    (limited m depth a >>= f) = limited (max m n) depth b := by
  by_cases hm : m ≤ depth
  · have hmax : max m n ≤ depth ↔ n ≤ depth := by omega
    rw [limited, if_pos hm, limited]
    simp only [hmax]
    exact h
  · have hmax : ¬ max m n ≤ depth := by omega
    rw [limited, if_neg hm, limited, if_neg hmax]
    rfl

/-- Reads a printed value to its end, unless it has too many levels. -/
def ReadsPrinted (read : List Char → Except Fault (Value × List Char)) (depth : Nat) (v : Value) :
    Prop :=
  ∀ rest, Stops rest → told (read (v.chars ++ rest)) = limited v.levels depth (v, rest)

section
variable {read : List Char → Except Fault (Value × List Char)} {depth clock : Nat}

theorem told_readItems {items : List Value} (hspelled : ∀ v ∈ items, v.Spelled v.chars)
    (hread : ∀ v ∈ items, ReadsPrinted read depth v) (first : Bool) (hclock : items.length < clock)
    (rest : List Char) :
    told (readItems read clock first (separated Value.chars first items ++ ']' :: rest)) =
      limited (itemLevels items) depth (items, rest) := by
  induction items generalizing first clock with
  | nil =>
    obtain ⟨left, rfl⟩ : ∃ left, clock = left + 1 := ⟨clock - 1, by omega⟩
    exact congrArg told (readItems_close (nextItem_close .nil first rest))
  | cons v items ih =>
    obtain ⟨hv, hitems⟩ := List.forall_mem_cons.mp hspelled
    obtain ⟨hvread, hitemsread⟩ := List.forall_mem_cons.mp hread
    obtain ⟨left, rfl⟩ : ∃ left, clock = left + 1 := ⟨clock - 1, by omega⟩
    have hlater := ih hitems hitemsread false (by simpa using hclock)
    have hstops := (itemsSpelled_separated hitems false).stops rest
    rw [separated, List.append_assoc, List.append_assoc,
      readItems_item (nextItem_lead (lead_separates first) hv _), told_bind, hvread _ hstops]
    apply limited_andThen
    rw [told_bind, hlater]
    exact limited_map _ _ _ _

theorem readMembers_close {α : Type} {value : List Char → Except Fault (α × List Char)}
    {first : Bool} {s rest : List Char} (h : nextMember first s = .ok (.close rest)) :
    readMembers value (clock + 1) first s = .ok ([], rest) := by
  rw [readMembers, h]
  rfl

theorem readMembers_item {α : Type} {value : List Char → Except Fault (α × List Char)}
    {first : Bool} {name : String} {s rest rest' : List Char}
    (h : nextMember first s = .ok (.item rest))
    (hname : readString rest = .ok (name, ':' :: rest')) :
    readMembers value (clock + 1) first s =
      value rest' >>= fun p => readMembers value clock false p.2 >>= fun q =>
        .ok ((name, p.1) :: q.1, q.2) := by
  have hcolon : readColon (':' :: rest') = .ok rest' := readColon_spelled .nil rest'
  rw [readMembers, h]
  simp only [bind, Except.bind, hname, hcolon]

theorem told_readMembers {members : List (String × Value)}
    (hspelled : ∀ e ∈ members, e.2.Spelled e.2.chars)
    (hread : ∀ e ∈ members, ReadsPrinted read depth e.2) (first : Bool)
    (hclock : members.length < clock) (rest : List Char) :
    told (readMembers read clock first (separated memberText first members ++ '\x7d' :: rest)) =
      limited (memberLevels members) depth (members, rest) := by
  induction members generalizing first clock with
  | nil =>
    obtain ⟨left, rfl⟩ : ∃ left, clock = left + 1 := ⟨clock - 1, by omega⟩
    exact congrArg told (readMembers_close (nextMember_close .nil first rest))
  | cons e members ih =>
    obtain ⟨name, v⟩ := e
    obtain ⟨hv, hmembers⟩ := List.forall_mem_cons.mp hspelled
    obtain ⟨hvread, hmembersread⟩ := List.forall_mem_cons.mp hread
    obtain ⟨left, rfl⟩ : ∃ left, clock = left + 1 := ⟨clock - 1, by omega⟩
    have hlater := ih hmembers hmembersread false (by simpa using hclock)
    have hstops := (membersSpelled_separated hmembers false).stops rest
    have hname := readString_spelled (charsSpelled_escaped name.toList)
      (':' :: (v.chars ++ (separated memberText false members ++ '\x7d' :: rest)))
    simp only [separated, memberText, quoted, List.append_assoc, List.cons_append, List.nil_append]
    rw [readMembers_item (nextMember_lead (lead_separates first) _) hname, told_bind,
      hvread _ hstops]
    apply limited_andThen
    rw [told_bind, hlater]
    exact limited_map _ _ _ _

theorem told_readObject {members : List (String × Value)} (hnodup : (members.map Prod.fst).Nodup)
    (hspelled : ∀ e ∈ members, e.2.Spelled e.2.chars)
    (hread : ∀ e ∈ members, ReadsPrinted read depth e.2) {α : Type} (f : Params Value → α)
    (rest : List Char) :
    let s := memberChars members ++ '\x7d' :: rest
    told (readMembers read (s.length + 1) true s >>= fun p => .ok (f (Params.ofList p.1), p.2)) =
      limited (memberLevels members) depth (f ⟨members, hnodup⟩, rest) := by
  intro s
  have hpos : ∀ e ∈ members, 0 < (memberText e).length := fun e _ => by simp [memberText, quoted]
  have hlength := length_le_separated hpos true
  have hclock : members.length < s.length + 1 := by
    rw [← memberChars_eq] at hlength
    simp only [s, List.length_append]
    omega
  have hmembers := told_readMembers hspelled hread true hclock rest
  rw [← memberChars_eq] at hmembers
  have hsame : Params.ofList members = ⟨members, hnodup⟩ :=
    Params.ext (Params.ofList_entries hnodup)
  rw [told_bind, hmembers, ← hsame]
  exact limited_map _ _ _ _

end

theorem readValue_scalar {c : Char} (hblank : isBlank c = false) (hlist : c ≠ '[')
    (hobject : c ≠ '\x7b') (depth : Nat) (s : List Char) :
    readValue depth (c :: s) = readScalar (c :: s) := by
  cases depth <;> simp [readValue, skipBlanks_cons hblank, hlist, hobject]

theorem readValue_array (depth : Nat) (s : List Char) :
    readValue (depth + 1) ('[' :: s) =
      readItems (readValue depth) (s.length + 1) true s >>= fun p => .ok (.array p.1, p.2) := by
  rw [readValue, skipBlanks_cons rfl]
  rfl

theorem readValue_object (depth : Nat) (s : List Char) :
    readValue (depth + 1) ('\x7b' :: s) =
      readMembers (readValue depth) (s.length + 1) true s >>= fun p =>
        .ok (.object (Params.ofList p.1).entries, p.2) := by
  rw [readValue, skipBlanks_cons rfl]
  rfl

theorem limited_succ {α : Type} (levels depth : Nat) (a : α) :
    limited (levels + 1) (depth + 1) a = limited levels depth a := by
  simp [limited]

theorem readsPrinted_scalar {v : Value} (hspelled : v.Spelled v.chars) (hlevels : v.levels = 0)
    (hread : ∀ rest, Stops rest → readScalar (v.chars ++ rest) = .ok (v, rest)) (depth : Nat) :
    ReadsPrinted (readValue depth) depth v := by
  intro rest hstops
  obtain ⟨c, tail, hchars, hblank, -, -, opening, brace⟩ := hspelled.head
  have hlist : c ≠ '[' := by
    intro hc
    obtain ⟨items, rfl⟩ := opening hc
    exact nomatch hlevels
  have hobject : c ≠ '\x7b' := by
    intro hc
    obtain ⟨members, rfl⟩ := brace hc
    exact nomatch hlevels
  have hscalar := hread rest hstops
  rw [hchars, List.cons_append] at hscalar ⊢
  rw [readValue_scalar hblank hlist hobject, hscalar, hlevels, limited, if_pos (Nat.zero_le depth)]
  rfl

theorem readScalar_null (rest : List Char) :
    readScalar (Value.null.chars ++ rest) = .ok (.null, rest) := by
  have hword := readWord_append ['u', 'l', 'l'] rest
  rw [Value.chars, List.cons_append, readScalar, hword]
  rfl

theorem readScalar_bool (b : Bool) (rest : List Char) :
    readScalar ((Value.bool b).chars ++ rest) = .ok (.bool b, rest) := by
  cases b with
  | false =>
    have hword := readWord_append ['a', 'l', 's', 'e'] rest
    rw [Value.chars, List.cons_append, readScalar, hword]
    rfl
  | true =>
    have hword := readWord_append ['r', 'u', 'e'] rest
    rw [Value.chars, List.cons_append, readScalar, hword]
    rfl

theorem readScalar_string (s : String) (rest : List Char) :
    readScalar ((Value.string s).chars ++ rest) = .ok (.string s, rest) := by
  have hread := readString_spelled (charsSpelled_escaped s.toList) rest
  rw [Value.chars, quoted, List.append_assoc, List.cons_append, List.singleton_append, readScalar,
    hread]
  rfl

/-- A printed value is read back, and nothing but its levels can be in the way. The induction is on
the value, with one level less for what stands inside it. -/
theorem Value.WellFormed.readsPrinted {v : Value} (h : v.WellFormed Number.Is64Bit) (depth : Nat) :
    ReadsPrinted (readValue depth) depth v := by
  have hspelled := h.spelled
  induction h generalizing depth with
  | null => exact readsPrinted_scalar hspelled rfl (fun rest _ => readScalar_null rest) depth
  | bool b => exact readsPrinted_scalar hspelled rfl (fun rest _ => readScalar_bool b rest) depth
  | @number n hn =>
    cases n with
    | integer i =>
      exact readsPrinted_scalar hspelled rfl (fun rest hr => readScalar_integerText hn hr) depth
    | float x => exact hn.elim
  | string s =>
    exact readsPrinted_scalar hspelled rfl (fun rest _ => readScalar_string s rest) depth
  | @array items hitems ih =>
    intro rest _
    rw [chars, List.append_assoc, List.cons_append, List.singleton_append]
    cases depth with
    | zero =>
      rw [readValue, skipBlanks_cons rfl]
      rfl
    | succ depth =>
      have hsp := fun v hv => (hitems v hv).spelled
      have hpos := fun v hv => (hsp v hv).length_pos
      have hlength := length_le_separated hpos true
      rw [← itemChars_eq] at hlength
      have hclock : items.length < (itemChars items ++ ']' :: rest).length + 1 := by
        rw [List.length_append]
        omega
      have hread := told_readItems hsp (fun v hv => ih v hv depth (hsp v hv)) true hclock rest
      rw [← itemChars_eq] at hread
      rw [readValue_array, told_bind, hread, levels, limited_succ]
      exact limited_map _ _ _ _
  | @object members hnodup hmembers ih =>
    intro rest _
    rw [chars, List.append_assoc, List.cons_append, List.singleton_append]
    cases depth with
    | zero =>
      rw [readValue, skipBlanks_cons rfl]
      rfl
    | succ depth =>
      have hsp := fun e he => (hmembers e he).spelled
      have hread := fun e he => ih e he depth (hsp e he)
      rw [readValue_object, levels, limited_succ]
      exact told_readObject hnodup hsp hread (fun p => Value.object p.entries) rest

section
variable {α : Type} {reader : List Char → Except Fault (α × List Char)} {text : String}

theorem readWhole_of_told_ok {a : α} (h : told (reader text.toList) = .ok (a, [])) :
    readWhole reader text = .ok a := by
  rw [readWhole]
  cases hread : reader text.toList with
  | error fault =>
    rw [hread] at h
    simp [told, Except.mapError] at h
  | ok read =>
    rw [hread] at h
    obtain rfl : read = (a, []) := Except.ok.inj h
    rfl

theorem readWhole_of_told_error {cause : Cause} (h : told (reader text.toList) = .error cause) :
    ∃ e, readWhole reader text = .error e ∧ e.cause = cause := by
  rw [readWhole]
  cases hread : reader text.toList with
  | error fault =>
    rw [hread] at h
    exact ⟨fault.locate text, rfl, Except.error.inj h⟩
  | ok read =>
    rw [hread] at h
    simp [told, Except.mapError] at h

end

end CreationLoader.Json

namespace CreationLoader.Params
open Json (Number Value told limited)

/-- How many objects and lists stand inside each other in the parameters, which are an object
themselves. -/
def levels (p : Params Value) : Nat := (Value.object p.entries).levels

theorem told_readParams {p : Params Value} (h : p.WellFormed Number.Is64Bit) :
    told (Json.readParams p.text.toList) = limited p.levels Json.depthLimit (p, []) := by
  have hspelled := fun e he => (h e he).spelled
  have hread := fun e he => (h e he).readsPrinted (Json.depthLimit - 1)
  have hobject := Json.told_readObject p.nodup hspelled hread id []
  have htext : p.text.toList = '\x7b' :: (Json.memberChars p.entries ++ ['\x7d']) := by
    rw [text, Value.text, String.toList_ofList, Value.chars]
    rfl
  rw [htext, Json.readParams, Json.skipBlanks_cons rfl]
  exact hobject.trans (Json.limited_succ _ (Json.depthLimit - 1) _).symm

/-- Parameters whose numbers are integers that fit 64 bits are read back from their text, with the
same names in the same order and the same values, and the text can be printed from them again, if
no more than 127 levels stand inside each other. If more do, this is what the reader complains
about. -/
theorem parse_text_by_levels {p : Params Value} (h : p.WellFormed Number.Is64Bit) :
    (p.levels ≤ 127 →
      Params.parse p.text = .ok p ∧ (Params.parse p.text).map Params.text = .ok p.text) ∧
    (127 < p.levels → ∃ e, Params.parse p.text = .error e ∧ e.cause = .nestedTooDeep) := by
  have htold := told_readParams h
  constructor
  · intro hlevels
    have hlimited : limited p.levels Json.depthLimit (p, ([] : List Char)) = .ok (p, []) :=
      if_pos hlevels
    have hparse : Params.parse p.text = .ok p :=
      Json.readWhole_of_told_ok (htold.trans hlimited)
    exact ⟨hparse, congrArg (Except.map Params.text) hparse⟩
  · intro hlevels
    have hlimited : limited p.levels Json.depthLimit (p, ([] : List Char)) =
        .error .nestedTooDeep :=
      if_neg (Nat.not_le.mpr hlevels)
    exact Json.readWhole_of_told_error (htold.trans hlimited)

def stack : Nat → Value
  | 0 => .array []
  | n + 1 => .array [stack n]

theorem wellFormed_stack (n : Nat) : (stack n).WellFormed Number.Is64Bit := by
  induction n with
  | zero => exact .array (by simp)
  | succ n ih => exact .array (by simpa using ih)

theorem levels_stack (n : Nat) : (stack n).levels = n + 1 := by
  induction n with
  | zero => rfl
  | succ n ih => simp [stack, Value.levels, Json.itemLevels, ih]

/-- The least and the greatest integer, and 127 levels. In neither object do the names stand in
alphabetical order. -/
def extremes : Params Value where
  entries :=
    [("z", .array [.number (.integer (-Nat.pow 2 63)), .number (.integer (Nat.pow 2 64 - 1))]),
      ("a", .object [("b", .string "\n"), ("a", stack 124)])]

/-- With one level more the parameters are refused. -/
theorem parse_text_of_extremes :
    Params.parse extremes.text = .ok extremes ∧
      ∃ e, Params.parse (extremes.insert "a" (stack 126)).text = .error e ∧
        e.cause = .nestedTooDeep := by
  have least : (Value.number (.integer (-Nat.pow 2 63))).WellFormed Number.Is64Bit :=
    .number ⟨by decide, by decide⟩
  have greatest : (Value.number (.integer (Nat.pow 2 64 - 1))).WellFormed Number.Is64Bit :=
    .number ⟨by decide, by decide⟩
  have hlist := Value.WellFormed.array
    (List.forall_mem_cons.mpr ⟨least, List.forall_mem_singleton.mpr greatest⟩)
  have hobject : (Value.object [("b", .string "\n"), ("a", stack 124)]).WellFormed Number.Is64Bit :=
    .object (by simp) (by simpa using ⟨.string "\n", wellFormed_stack 124⟩)
  have hwf : extremes.WellFormed Number.Is64Bit :=
    List.forall_mem_cons.mpr ⟨hlist, List.forall_mem_singleton.mpr hobject⟩
  have hdeep : (extremes.insert "a" (stack 126)).WellFormed Number.Is64Bit :=
    List.forall_mem_cons.mpr ⟨hlist, List.forall_mem_singleton.mpr (wellFormed_stack 126)⟩
  constructor
  · have hlevels : extremes.levels = 127 := by
      simp [extremes, levels, Value.levels, Json.memberLevels, Json.itemLevels, levels_stack]
    exact ((parse_text_by_levels hwf).1 (Nat.le_of_eq hlevels)).1
  · have hlevels : (extremes.insert "a" (stack 126)).levels = 128 := by
      simp [extremes, levels, Value.levels, Json.memberLevels, Json.itemLevels, levels_stack,
        insert, Association.put]
    exact (parse_text_by_levels hdeep).2 (by omega)

end CreationLoader.Params

namespace CreationLoader.Config
open Json (Number Value)

theorem toJson_wellFormed (c : Config) : c.toJson.WellFormed Number.Is64Bit := by
  have hdomains : c.allowedDomains.toJson.WellFormed Number.Is64Bit := by
    apply Value.WellFormed.array
    intro v hv
    obtain ⟨domain, -, rfl⟩ := List.mem_map.mp hv
    exact .string domain
  apply Value.WellFormed.object (by simp)
  simpa using ⟨hdomains, .string c.polyfillUrl⟩

theorem writes_toJson (c : Config) : Writes c.toJson c :=
  .object (some c.allowedDomains.domains) (some c.polyfillUrl) rfl rfl

/-- A configuration is read back from its text, whatever its strings are and however many domains
it lists. -/
theorem parse_text (c : Config) : parse c.text = .ok c := by
  have hread := parse_isText c.toJson_wellFormed.isText
  rw [of?_iff_writes.mpr c.writes_toJson] at hread
  cases hparse : parse c.text with
  | error e =>
    have hnone : (parse c.text).toOption = none := congrArg Except.toOption hparse
    exact nomatch hnone.symm.trans hread
  | ok read =>
    have hsome : (parse c.text).toOption = some read := congrArg Except.toOption hparse
    rw [Option.some.inj (hsome.symm.trans hread)]

end CreationLoader.Config
