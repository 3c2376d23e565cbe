import CreationLoader.Config.Json
import CreationLoader.Proofs.Skipping

/-!
# Reading the object that writes a configuration

The reader goes through the members of an object and remembers which of the two it knows it
has seen. Here every text of an object is read: what comes out depends on the members alone, as
a fold over them.
-/

namespace CreationLoader.Json

theorem toOption_bind {ε α β : Type} (x : Except ε α) (f : α → Except ε β) :
    (x >>= f).toOption = x.toOption.bind fun a => (f a).toOption := by
  cases x <;> rfl

theorem toOption_bind_ok {ε α β : Type} {x : Except ε (α × List Char)} {a : Option α}
    {rest : List Char} (h : x.toOption = a.map fun a => (a, rest)) (f : α → β) :
    (x >>= fun p => .ok (f p.1, p.2)).toOption = (a.map f).map fun b => (b, rest) := by
  rw [toOption_bind, h]
  cases a <;> rfl

theorem toOption_readWhole {α : Type} {reader : List Char → Except Fault (α × List Char)}
    {text : String} {a : Option α} {after : List Char}
    (h : (reader text.toList).toOption = a.map fun a => (a, after)) (ha : Blank after) :
    (readWhole reader text).toOption = a := by
  have done : skipBlanks after = [] := by
    rw [← List.append_nil after, skipBlanks_blank ha]
    rfl
  rw [readWhole]
  cases hread : reader text.toList with
  | error fault =>
    rw [hread] at h
    cases a with
    | none => rfl
    | some a => exact absurd h (by simp [Except.toOption])
  | ok p =>
    rw [hread] at h
    cases a with
    | none => exact absurd h (by simp [Except.toOption])
    | some a =>
      obtain rfl : p = (a, after) := Option.some.inj h
      simp only [done]
      rfl

theorem readText_spelled {v : Value} {lead s : List Char} (hl : Blank lead) (hv : v.Spelled s)
    (rest : List Char) :
    (readText (lead ++ (s ++ rest))).toOption = v.string?.map fun t => (t, rest) := by
  have start := hv.skipBlanks_append rest
  cases hs : v with
  | string t =>
    subst hs
    cases hv with
    | string h =>
      rw [List.cons_append, List.append_assoc, List.singleton_append] at start ⊢
      rw [readText, skipBlanks_blank hl, start]
      simp only [readString_spelled h]
      rfl
  | _ =>
    obtain ⟨c, tail, rfl, -, -, quote, -⟩ := hv.head
    have noString : c ≠ '"' := by
      intro h
      obtain ⟨t, heq⟩ := quote h
      exact absurd (hs.symm.trans heq) (by simp)
    rw [List.cons_append] at start ⊢
    simp [readText, skipBlanks_blank hl, start, noString, Value.string?, Except.toOption]

theorem readItems_item {α : Type} {item : List Char → Except Fault (α × List Char)} {clock : Nat}
    {first : Bool} {s rest : List Char} (h : nextItem first s = .ok (.item rest)) :
    readItems item (clock + 1) first s =
      item rest >>= fun p => readItems item clock false p.2 >>= fun q => .ok (p.1 :: q.1, q.2) := by
  rw [readItems, h]
  rfl

theorem readItems_close {α : Type} {item : List Char → Except Fault (α × List Char)} {clock : Nat}
    {first : Bool} {s rest : List Char} (h : nextItem first s = .ok (.close rest)) :
    readItems item (clock + 1) first s = .ok ([], rest) := by
  rw [readItems, h]
  rfl

theorem readItems_spelled {items : List Value} {first : Bool} {s : List Char} {clock : Nat}
    (h : ItemsSpelled first items s) (hclock : s.length < clock) (rest : List Char) :
    (readItems readText clock first (s ++ ']' :: rest)).toOption =
      (items.mapM Value.string?).map fun texts => (texts, rest) := by
  induction items generalizing first s clock with
  | nil =>
    obtain ⟨left, rfl⟩ : ∃ left, clock = left + 1 := ⟨clock - 1, by omega⟩
    cases h with
    | nil h =>
      rw [readItems_close (nextItem_close h first rest)]
      rfl
  | cons v items ih =>
    obtain ⟨left, rfl⟩ : ∃ left, clock = left + 1 := ⟨clock - 1, by omega⟩
    cases h with
    | @cons _ _ _ lead s tail hl hv hs =>
      have spelled := hv.length_pos
      simp only [List.length_append] at hclock
      have head := readText_spelled Blank.nil hv (tail ++ ']' :: rest)
      have later := ih hs (by omega : tail.length < left)
      rw [List.nil_append] at head
      rw [List.append_assoc, List.append_assoc, readItems_item (nextItem_lead hl hv _),
        toOption_bind, head, List.mapM_cons]
      cases v.string? with
      | none => rfl
      | some t =>
        simp only [Option.map_some, Option.bind_some, toOption_bind, later]
        cases items.mapM Value.string? <;> rfl

theorem readTexts_spelled {v : Value} {lead s : List Char} (hl : Blank lead) (hv : v.Spelled s)
    (rest : List Char) :
    (readTexts (lead ++ (s ++ rest))).toOption = v.strings?.map fun texts => (texts, rest) := by
  have start := hv.skipBlanks_append rest
  cases hs : v with
  | array items =>
    subst hs
    cases hv with
    | array h =>
      rw [List.cons_append, List.append_assoc, List.singleton_append] at start ⊢
      rw [readTexts, skipBlanks_blank hl, start]
      apply readItems_spelled h
      rw [List.length_append]
      omega
  | _ =>
    obtain ⟨c, tail, rfl, -, -, -, opening, -⟩ := hv.head
    have noList : c ≠ '[' := by
      intro h
      obtain ⟨items, heq⟩ := opening h
      exact absurd (hs.symm.trans heq) (by simp)
    rw [List.cons_append] at start ⊢
    simp [readTexts, skipBlanks_blank hl, start, noList, Value.strings?, Except.toOption]

end CreationLoader.Json

namespace CreationLoader.Config
open Json

/-- What is known after one more member; nothing is if the member was known before or is not
of its type. -/
def Members.add? (m : Members) (name : String) (v : Json.Value) : Option Members :=
  if name = "allowedDomains" then
    if m.allowedDomains.isSome then none
    else v.strings?.map fun domains => { m with allowedDomains := some ⟨domains⟩ }
  else if name = "polyfillUrl" then
    if m.polyfillUrl.isSome then none
    else v.string?.map fun url => { m with polyfillUrl := some url }
  else some m

def Members.addAll? (m : Members) (members : List (String × Json.Value)) : Option Members :=
  members.foldlM (fun m e => m.add? e.1 e.2) m

theorem readMember_spelled {v : Json.Value} {before after s rest : List Char} (m : Members)
    (name : String) (hb : Blank before) (ha : Blank after) (hv : v.Spelled s) (hr : Stops rest) :
    (readMember m name (before ++ ':' :: (after ++ (s ++ rest)))).toOption =
      (m.add? name v).map fun m => (m, rest) := by
  rw [readMember, readColon_spelled hb, Members.add?]
  split
  · split
    · rfl
    · exact toOption_bind_ok (readTexts_spelled ha hv rest) fun domains =>
        { m with allowedDomains := some ⟨domains⟩ }
  · split
    · split
      · rfl
      · exact toOption_bind_ok (readText_spelled ha hv rest) fun url =>
          { m with polyfillUrl := some url }
    · have skipped : skip (after ++ (s ++ rest)) = .ok rest := skip_spelled ha hv hr
      simp only [bind, Except.bind, skipped]
      rfl

theorem readMembers_item {clock : Nat} {first : Bool} {m : Members} {s rest : List Char}
    (h : nextMember first s = .ok (.item rest)) :
    readMembers (clock + 1) first m s =
      readString rest >>= fun p => readMember m p.1 p.2 >>= fun q =>
        readMembers clock false q.1 q.2 := by
  rw [readMembers, h]
  rfl

theorem readMembers_close {clock : Nat} {first : Bool} {m : Members} {s rest : List Char}
    (h : nextMember first s = .ok (.close rest)) :
    readMembers (clock + 1) first m s = .ok (m, rest) := by
  rw [readMembers, h]
  rfl

/-- Reading adds the members one by one, from what was known before. -/
theorem readMembers_spelled {members : List (String × Json.Value)} {first : Bool} {m : Members}
    {s : List Char} {clock : Nat} (h : MembersSpelled first members s)
    (hclock : s.length < clock) (rest : List Char) :
    (readMembers clock first m (s ++ '\x7d' :: rest)).toOption =
      (m.addAll? members).map fun m => (m, rest) := by
  induction members generalizing first m s clock with
  | nil =>
    obtain ⟨left, rfl⟩ : ∃ left, clock = left + 1 := ⟨clock - 1, by omega⟩
    cases h with
    | nil h =>
      rw [readMembers_close (nextMember_close h first rest)]
      rfl
  | cons e members ih =>
    obtain ⟨left, rfl⟩ : ∃ left, clock = left + 1 := ⟨clock - 1, by omega⟩
    cases h with
    | @cons _ name v _ lead key before after s tail hl hkey hb ha hv hs =>
      simp only [List.length_append, List.length_cons] at hclock
      have member := readMember_spelled m name hb ha hv (hs.stops rest)
      simp only [List.append_assoc, List.cons_append]
      rw [readMembers_item (nextMember_lead hl _), readString_spelled hkey, Members.addAll?,
        List.foldlM_cons]
      have step : (readMember m name
          (before ++ ':' :: (after ++ (s ++ (tail ++ '\x7d' :: rest)))) >>= fun q =>
            readMembers left false q.1 q.2).toOption =
          ((m.add? name v).bind fun m => m.addAll? members).map fun m => (m, rest) := by
        rw [toOption_bind, member]
        cases m.add? name v with
        | none => rfl
        | some m' => exact ih hs (by omega)
      exact step

theorem read_object {members : List (String × Json.Value)} {before s : List Char}
    (hb : Blank before) (hs : (Json.Value.object members).Spelled s) (rest : List Char) :
    (read (before ++ (s ++ rest))).toOption =
      ((Members.addAll? {} members).map ofMembers).map fun c => (c, rest) := by
  cases hs with
  | @object _ body h =>
    have brace := skipBlanks_cons (c := '\x7b') rfl (body ++ '\x7d' :: rest)
    have enough : body.length < (body ++ '\x7d' :: rest).length + 1 := by
      rw [List.length_append]
      omega
    rw [List.cons_append, List.append_assoc, List.singleton_append, read, skipBlanks_blank hb,
      brace]
    exact toOption_bind_ok (readMembers_spelled h enough rest) ofMembers

end CreationLoader.Config
