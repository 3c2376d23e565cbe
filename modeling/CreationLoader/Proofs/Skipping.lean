import CreationLoader.Json.Skip
import CreationLoader.Proofs.Spelling

/-!
# What is skipped is a value

Every text of a value is passed over whole, however deep the value is and however large its
numbers are. Only a number does not tell by itself where it ends: what follows it must not be
able to go on with it, and whatever stands behind a value in a list or an object is not.
-/

namespace CreationLoader.Json

def NoDigit (s : List Char) : Prop := ∀ c ∈ s.head?, isDigit c = false

/-- What comes next does not belong to a number. -/
def Stops (s : List Char) : Prop :=
  ∀ c ∈ s.head?, isDigit c = false ∧ c ≠ '.' ∧ c ≠ 'e' ∧ c ≠ 'E'

theorem stops_cons {c : Char} (h : isDigit c = false ∧ c ≠ '.' ∧ c ≠ 'e' ∧ c ≠ 'E')
    (rest : List Char) : Stops (c :: rest) := by
  intro d hd
  obtain rfl : c = d := Option.some.inj hd
  exact h

theorem stops_nil : Stops [] := fun _ h => nomatch h

theorem stops_of_isBlank {c : Char} (h : isBlank c = true) (rest : List Char) :
    Stops (c :: rest) := by
  apply stops_cons
  simp only [isBlank, Bool.or_eq_true, beq_iff_eq] at h
  obtain ((rfl | rfl) | rfl) | rfl := h <;> decide

theorem Blank.stops {s : List Char} (h : Blank s) {rest : List Char} (hr : Stops rest) :
    Stops (s ++ rest) := by
  cases s with
  | nil => exact hr
  | cons c s => exact stops_of_isBlank (h c List.mem_cons_self) (s ++ rest)

theorem Lead.stops {lead : List Char} (h : Lead false lead) (rest : List Char) :
    Stops (lead ++ rest) := by
  cases h with
  | comma hb _ =>
    rw [List.append_assoc]
    exact hb.stops (stops_cons (by decide) _)

theorem ItemsSpelled.stops {items : List Value} {s : List Char} (h : ItemsSpelled false items s)
    (rest : List Char) : Stops (s ++ ']' :: rest) := by
  cases h with
  | nil h => exact h.stops (stops_cons (by decide) rest)
  | cons hl _ _ =>
    rw [List.append_assoc]
    exact hl.stops _

theorem MembersSpelled.stops {members : List (String × Value)} {s : List Char}
    (h : MembersSpelled false members s) (rest : List Char) : Stops (s ++ '\x7d' :: rest) := by
  cases h with
  | nil h => exact h.stops (stops_cons (by decide) rest)
  | cons hl _ _ _ _ _ =>
    rw [List.append_assoc]
    exact hl.stops _

theorem dropWhile_digits {s rest : List Char} (hs : Digits s) (hr : NoDigit rest) :
    (s ++ rest).dropWhile isDigit = rest := by
  rw [List.dropWhile_append_of_pos hs]
  cases rest with
  | nil => rfl
  | cons c rest => exact List.dropWhile_cons_of_neg (by simp [hr c rfl])

theorem Stops.noDigit {s : List Char} (h : Stops s) : NoDigit s := fun c hc => (h c hc).1

theorem Exponent.noDigit {s rest : List Char} (h : Exponent s) (hr : Stops rest) :
    NoDigit (s ++ rest) := by
  cases h with
  | none => exact hr.noDigit
  | digits hl _ _ _ =>
    intro c hc
    obtain rfl := Option.some.inj hc
    obtain rfl | rfl := hl <;> rfl

theorem Fraction.noDigit {s rest : List Char} (h : Fraction s) (hr : NoDigit rest) :
    NoDigit (s ++ rest) := by
  cases h with
  | none => exact hr
  | digits _ _ =>
    intro c hc
    obtain rfl := Option.some.inj hc
    rfl

theorem skipExponent_spelled {c : Char} {sign s rest : List Char}
    (hsign : sign = [] ∨ sign = ['+'] ∨ sign = ['-']) (hc : isDigit c = true) (hs : Digits s)
    (hr : NoDigit rest) : skipExponent (sign ++ c :: (s ++ rest)) = .ok rest := by
  have plus : c ≠ '+' := ne_of_isDigit hc rfl
  have minus : c ≠ '-' := ne_of_isDigit hc rfl
  obtain rfl | rfl | rfl := hsign <;>
    simp [skipExponent, plus, minus, hc, dropWhile_digits hs hr]

theorem skipTail_spelled {s rest : List Char} (h : Exponent s) (hr : Stops rest) :
    skipTail (s ++ rest) = .ok rest := by
  cases h with
  | none =>
    cases rest with
    | nil => rfl
    | cons c rest =>
      obtain ⟨-, -, small, capital⟩ := hr c rfl
      simp [skipTail, small, capital]
  | digits hl hsign hc hs =>
    rw [List.cons_append, List.append_assoc, List.cons_append]
    have skipped := skipExponent_spelled hsign hc hs hr.noDigit
    obtain rfl | rfl := hl <;> exact skipped

theorem skipWhole_spelled {s rest : List Char} (h : Whole s) (hr : NoDigit rest) :
    skipWhole (s ++ rest) = .ok rest := by
  cases h with
  | zero =>
    cases rest with
    | nil => rfl
    | cons c rest => simp [skipWhole, hr c rfl]
  | digits hc hzero hs => simp [skipWhole, hc, hzero, dropWhile_digits hs hr]

theorem skipFraction_spelled {fraction exponent rest : List Char} (hf : Fraction fraction)
    (he : Exponent exponent) (hr : Stops rest) :
    skipFraction (fraction ++ (exponent ++ rest)) = .ok rest := by
  have tail := skipTail_spelled he hr
  cases hf with
  | none =>
    have noPoint : ∀ digits, exponent ++ rest ≠ '.' :: digits := by
      intro digits heq
      cases he with
      | none =>
        obtain rfl : rest = '.' :: digits := heq
        exact (hr '.' rfl).2.1 rfl
      | digits hl _ _ _ => obtain rfl | rfl := hl <;> exact absurd (List.cons.inj heq).1 (by decide)
    rw [List.nil_append, skipFraction]
    · exact tail
    · exact noPoint
  | @digits c s hc hs =>
    have dropped : (c :: (s ++ (exponent ++ rest))).dropWhile isDigit = exponent ++ rest :=
      dropWhile_digits (List.forall_mem_cons.2 ⟨hc, hs⟩) (he.noDigit hr)
    have shorter : ¬ (exponent ++ rest).length = (c :: (s ++ (exponent ++ rest))).length := by
      simp only [List.length_cons, List.length_append]
      omega
    simp only [List.cons_append, skipFraction, dropped, if_neg shorter, tail]

/-- A numeral is passed over, whatever its size. -/
theorem skipNumber_spelled {whole fraction exponent rest : List Char} (hw : Whole whole)
    (hf : Fraction fraction) (he : Exponent exponent) (hr : Stops rest) :
    skipNumber (whole ++ (fraction ++ (exponent ++ rest))) = .ok rest := by
  rw [skipNumber, skipWhole_spelled hw (hf.noDigit (he.noDigit hr))]
  exact skipFraction_spelled hf he hr

theorem skipCharacters_unit {n : Nat} {digits : List Char} (h : UnitSpelled n digits)
    (clock : Nat) (rest : List Char) :
    skipCharacters (clock + 1) ('\\' :: 'u' :: digits ++ rest) = skipCharacters clock rest := by
  rw [List.cons_append, List.cons_append, skipCharacters, if_pos rfl, readUnit_spelled h]
  rfl

/-- An escape of two surrogates is passed over in two steps, everything else in one. -/
theorem skipCharacters_cons {c : Char} {s : List Char} (h : CharSpelled c s) :
    ∃ steps ≤ s.length, ∀ clock rest,
      skipCharacters (clock + steps) (s ++ rest) = skipCharacters clock rest := by
  cases h with
  | plain hc hquote hslash =>
    refine ⟨1, by simp, fun clock rest => ?_⟩
    have noControl : ¬ c.toNat < 0x20 := by omega
    rw [List.singleton_append, skipCharacters]
    · exact if_neg noControl
    · exact hquote
    · rintro rfl
      exact absurd rfl hslash
    · rintro _ _ rfl
      exact absurd rfl hslash
  | short h =>
    refine ⟨1, by simp, fun clock rest => ?_⟩
    simp only [shortEscapes, List.mem_cons, List.not_mem_nil, or_false, Prod.mk.injEq] at h
    rcases h with ⟨rfl, rfl⟩ | ⟨rfl, rfl⟩ | ⟨rfl, rfl⟩ | ⟨rfl, rfl⟩ | ⟨rfl, rfl⟩ | ⟨rfl, rfl⟩ |
      ⟨rfl, rfl⟩ | ⟨rfl, rfl⟩ <;> rfl
  | unit h _ => exact ⟨1, by simp, fun clock rest => skipCharacters_unit h clock rest⟩
  | @surrogates high low leading trailing hh _ _ hl _ _ =>
    refine ⟨2, by simp, fun clock rest => ?_⟩
    calc skipCharacters (clock + 2) ('\\' :: 'u' :: (leading ++ '\\' :: 'u' :: trailing) ++ rest)
        = skipCharacters (clock + 1 + 1)
            ('\\' :: 'u' :: leading ++ ('\\' :: 'u' :: trailing ++ rest)) := by
          simp only [List.cons_append, List.append_assoc]
      _ = skipCharacters (clock + 1) ('\\' :: 'u' :: trailing ++ rest) := skipCharacters_unit hh _ _
      _ = skipCharacters clock rest := skipCharacters_unit hl _ _

theorem skipCharacters_spelled {cs s : List Char} (h : CharsSpelled cs s) {clock : Nat}
    (hclock : s.length < clock) (rest : List Char) :
    skipCharacters clock (s ++ '"' :: rest) = .ok rest := by
  induction h generalizing clock with
  | nil =>
    cases clock with
    | zero => simp at hclock
    | succ clock => rfl
  | @cons c cs s tail hc _ ih =>
    obtain ⟨steps, hsteps, skipped⟩ := skipCharacters_cons hc
    rw [List.length_append] at hclock
    obtain ⟨left, rfl⟩ : ∃ left, clock = left + steps := ⟨clock - steps, by omega⟩
    rw [List.append_assoc, skipped]
    exact ih (by omega)

theorem skipString_spelled {cs s : List Char} (h : CharsSpelled cs s) (rest : List Char) :
    skipString (s ++ '"' :: rest) = .ok rest := by
  apply skipCharacters_spelled h
  rw [List.length_append]
  omega

theorem readWord_append (letters rest : List Char) :
    readWord letters (letters ++ rest) = .ok rest := by
  induction letters with
  | nil => cases rest <;> rfl
  | cons c letters ih => rw [List.cons_append, readWord, if_pos rfl, ih]

theorem skipScalar_numeral {s rest : List Char} (h : Numeral s) (hr : Stops rest) :
    skipScalar (s ++ rest) = .ok rest := by
  obtain ⟨rfl | rfl, hw, hf, he⟩ := h
  · have skipped := skipNumber_spelled hw hf he hr
    obtain ⟨c, tail, rfl, hc⟩ := hw.head
    have n : c ≠ 'n' := ne_of_isDigit hc rfl
    have t : c ≠ 't' := ne_of_isDigit hc rfl
    have f : c ≠ 'f' := ne_of_isDigit hc rfl
    have quote : c ≠ '"' := ne_of_isDigit hc rfl
    have minus : c ≠ '-' := ne_of_isDigit hc rfl
    simpa [skipScalar, n, t, f, quote, minus, hc] using skipped
  · have skipped := skipNumber_spelled hw hf he hr
    simpa [skipScalar] using skipped

theorem skipValue_scalar {c : Char} {lead : List Char} (hl : Blank lead)
    (hblank : isBlank c = false) (hlist : c ≠ '[') (hobject : c ≠ '\x7b') (clock : Nat)
    (rest : List Char) :
    skipValue (clock + 1) (lead ++ c :: rest) = skipScalar (c :: rest) := by
  simp [skipValue, skipBlanks_blank hl, skipBlanks_cons hblank, hlist, hobject]

/-- An item is skipped from its first character or, behind a comma, with the blanks before it. -/
theorem skipItems_lead {first : Bool} {lead s : List Char} {v : Value} (hl : Lead first lead)
    (hv : v.Spelled s) (clock : Nat) (rest : List Char) :
    ∃ gap, Blank gap ∧ skipItems (clock + 1) first (lead ++ (s ++ rest)) =
      (skipValue clock (gap ++ (s ++ rest))).bind (skipItems clock false) := by
  have start := hv.skipBlanks_append rest
  obtain ⟨c, tail, rfl, hc, bracket, -⟩ := hv.head
  rw [List.cons_append] at start ⊢
  cases hl with
  | first h =>
    refine ⟨[], Blank.nil, ?_⟩
    simp [skipItems, skipBlanks_blank h, start, bind]
  | @comma before after hb ha =>
    refine ⟨after, ha, ?_⟩
    have comma := skipBlanks_cons (c := ',') rfl (after ++ c :: (tail ++ rest))
    simp [skipItems, skipBlanks_blank hb, comma, bind]

theorem skipMembers_lead {first : Bool} {lead : List Char} (hl : Lead first lead) (clock : Nat)
    (rest : List Char) :
    skipMembers (clock + 1) first (lead ++ '"' :: rest) =
      (skipString rest).bind fun rest =>
        (readColon rest).bind fun rest =>
          (skipValue clock rest).bind (skipMembers clock false) := by
  have quote := skipBlanks_cons (c := '"') rfl rest
  cases hl with
  | first h => simp [skipMembers, skipBlanks_blank h, quote, bind]
  | @comma before after hb ha =>
    have comma := skipBlanks_cons (c := ',') rfl (after ++ '"' :: rest)
    simp [skipMembers, skipBlanks_blank hb, skipBlanks_blank ha, comma, quote, bind]

theorem skipItems_nil {s : List Char} (h : Blank s) (clock : Nat) (first : Bool)
    (rest : List Char) : skipItems (clock + 1) first (s ++ ']' :: rest) = .ok rest := by
  simp [skipItems, skipBlanks_blank h, skipBlanks_cons (c := ']') rfl]

theorem skipMembers_nil {s : List Char} (h : Blank s) (clock : Nat) (first : Bool)
    (rest : List Char) : skipMembers (clock + 1) first (s ++ '\x7d' :: rest) = .ok rest := by
  simp [skipMembers, skipBlanks_blank h, skipBlanks_cons (c := '\x7d') rfl]

mutual

/-- A value is passed over whole if the clock has two ticks for each of its characters: one
for the value or the item that begins there, one for the list or the object around it. -/
theorem skipValue_spelled {v : Value} {s lead : List Char} (hl : Blank lead) : v.Spelled s →
    ∀ {clock rest}, 2 * s.length ≤ clock → Stops rest →
      skipValue clock (lead ++ (s ++ rest)) = .ok rest
  | hv, 0, _, hclock, _ => by
    have := hv.length_pos
    omega
  | .null, clock + 1, rest, _, _ => by
    rw [List.cons_append, skipValue_scalar hl rfl (by decide) (by decide)]
    exact readWord_append ['u', 'l', 'l'] rest
  | .bool true, clock + 1, rest, _, _ => by
    rw [if_pos rfl, List.cons_append, skipValue_scalar hl rfl (by decide) (by decide)]
    exact readWord_append ['r', 'u', 'e'] rest
  | .bool false, clock + 1, rest, _, _ => by
    rw [if_neg (by decide), List.cons_append, skipValue_scalar hl rfl (by decide) (by decide)]
    exact readWord_append ['a', 'l', 's', 'e'] rest
  | .number h _, clock + 1, rest, _, hr => by
    have skipped := skipScalar_numeral h hr
    obtain ⟨c, tail, rfl, hc⟩ := h.head
    rw [List.cons_append] at skipped ⊢
    obtain rfl | hc := hc
    · rw [skipValue_scalar hl rfl (by decide) (by decide), skipped]
    · have list : c ≠ '[' := ne_of_isDigit hc rfl
      have object : c ≠ '\x7b' := ne_of_isDigit hc rfl
      rw [skipValue_scalar hl (isBlank_of_isDigit hc) list object, skipped]
  | .string h, clock + 1, rest, _, _ => by
    rw [List.cons_append, List.append_assoc, List.singleton_append,
      skipValue_scalar hl rfl (by decide) (by decide)]
    exact skipString_spelled h rest
  | @Value.Spelled.array _ body h, clock + 1, rest, hclock, _ => by
    have enough : 2 * body.length + 1 ≤ clock := by
      simp only [List.length_cons, List.length_append] at hclock
      omega
    simp [skipValue, skipBlanks_blank hl, skipBlanks_cons (c := '[') rfl,
      skipItems_spelled h enough rest]
  | @Value.Spelled.object _ body h, clock + 1, rest, hclock, _ => by
    have enough : 2 * body.length + 1 ≤ clock := by
      simp only [List.length_cons, List.length_append] at hclock
      omega
    simp [skipValue, skipBlanks_blank hl, skipBlanks_cons (c := '\x7b') rfl,
      skipMembers_spelled h enough rest]

theorem skipItems_spelled {first : Bool} {items : List Value} {s : List Char} :
    ItemsSpelled first items s → ∀ {clock}, 2 * s.length + 1 ≤ clock → ∀ rest,
      skipItems clock first (s ++ ']' :: rest) = .ok rest
  | _, 0, hclock, _ => by omega
  | .nil h, clock + 1, _, rest => skipItems_nil h clock first rest
  | @ItemsSpelled.cons _ _ _ lead s tail hl hv hs, clock + 1, hclock, rest => by
    simp only [List.length_append] at hclock
    have spelled := hv.length_pos
    obtain ⟨gap, hgap, skipped⟩ := skipItems_lead hl hv clock (tail ++ ']' :: rest)
    rw [List.append_assoc, List.append_assoc, skipped,
      skipValue_spelled hgap hv (by omega) (hs.stops rest)]
    exact skipItems_spelled hs (by omega) rest

theorem skipMembers_spelled {first : Bool} {members : List (String × Value)} {s : List Char} :
    MembersSpelled first members s → ∀ {clock}, 2 * s.length + 1 ≤ clock → ∀ rest,
      skipMembers clock first (s ++ '\x7d' :: rest) = .ok rest
  | _, 0, hclock, _ => by omega
  | .nil h, clock + 1, _, rest => skipMembers_nil h clock first rest
  | @MembersSpelled.cons _ _ _ _ lead key before after s tail hl hkey hb ha hv hs, clock + 1,
      hclock, rest => by
    simp only [List.length_append, List.length_cons] at hclock
    have name := skipString_spelled hkey
      (before ++ ':' :: (after ++ (s ++ (tail ++ '\x7d' :: rest))))
    have colon := readColon_spelled hb (after ++ (s ++ (tail ++ '\x7d' :: rest)))
    have value : skipValue clock (after ++ (s ++ (tail ++ '\x7d' :: rest))) =
        .ok (tail ++ '\x7d' :: rest) := skipValue_spelled ha hv (by omega) (hs.stops rest)
    simp only [List.append_assoc, List.cons_append]
    rw [skipMembers_lead hl, name, Except.bind, colon, Except.bind, value, Except.bind]
    exact skipMembers_spelled hs (by omega) rest

end

theorem skip_spelled {v : Value} {lead s rest : List Char} (hl : Blank lead) (hv : v.Spelled s)
    (hr : Stops rest) : skip (lead ++ (s ++ rest)) = .ok rest := by
  apply skipValue_spelled hl hv _ hr
  simp only [List.length_append]
  omega

end CreationLoader.Json
