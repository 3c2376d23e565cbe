import CreationLoader.Json.Reader

/-!
# The texts of JSON values

Which characters write a value, said without a reader. Blanks may stand between the parts of
a value, a character of a string may be written in several ways, and a number may be of any
size. A reader is complete if it takes every text of a value.
-/

namespace CreationLoader.Json

/-- Characters that mean nothing between the parts of a value. -/
def Blank (s : List Char) : Prop := ∀ c ∈ s, isBlank c = true

instance (s : List Char) : Decidable (Blank s) :=
  List.decidableBAll (fun c => isBlank c = true) s

/-- A code unit in four digits of base sixteen. -/
inductive UnitSpelled : Nat → List Char → Prop
  | digits {c₁ c₂ c₃ c₄ : Char} {n₁ n₂ n₃ n₄ : Nat} :
      hexValue? c₁ = some n₁ → hexValue? c₂ = some n₂ →
      hexValue? c₃ = some n₃ → hexValue? c₄ = some n₄ →
      UnitSpelled (((n₁ * 16 + n₂) * 16 + n₃) * 16 + n₄) [c₁, c₂, c₃, c₄]

/-- The letters that may follow a backslash, and the characters that they stand for. -/
def shortEscapes : List (Char × Char) :=
  [('"', '"'), ('\\', '\\'), ('/', '/'), ('b', '\x08'), ('f', '\x0c'), ('n', '\n'), ('r', '\r'),
    ('t', '\t')]

/-- One character as it may be written inside a string: as itself, behind a backslash, by its
code unit, or by the two surrogates that make it up. -/
inductive CharSpelled : Char → List Char → Prop
  | plain {c : Char} : 0x20 ≤ c.toNat → c ≠ '"' → c ≠ '\\' → CharSpelled c [c]
  | short {letter c : Char} : (letter, c) ∈ shortEscapes → CharSpelled c ['\\', letter]
  | unit {n : Nat} {digits : List Char} : UnitSpelled n digits → n < 0xd800 ∨ 0xdfff < n →
      CharSpelled (Char.ofNat n) ('\\' :: 'u' :: digits)
  | surrogates {high low : Nat} {leading trailing : List Char} :
      UnitSpelled high leading → 0xd800 ≤ high → high ≤ 0xdbff →
      UnitSpelled low trailing → 0xdc00 ≤ low → low ≤ 0xdfff →
      CharSpelled (Char.ofNat (0x10000 + (high - 0xd800) * 0x400 + (low - 0xdc00)))
        ('\\' :: 'u' :: (leading ++ '\\' :: 'u' :: trailing))

inductive CharsSpelled : List Char → List Char → Prop
  | nil : CharsSpelled [] []
  | cons {c : Char} {cs s rest : List Char} : CharSpelled c s → CharsSpelled cs rest →
      CharsSpelled (c :: cs) (s ++ rest)

/-- Whether a character may stand for itself inside a string. -/
def isPlain (c : Char) : Bool := decide (0x20 ≤ c.toNat ∧ c ≠ '"' ∧ c ≠ '\\')

theorem CharsSpelled.plain {cs : List Char} (h : cs.all isPlain = true) : CharsSpelled cs cs := by
  induction cs with
  | nil => exact .nil
  | cons c cs ih =>
    obtain ⟨hc, hcs⟩ := (Bool.and_eq_true _ _).mp h
    obtain ⟨printable, quote, slash⟩ := of_decide_eq_true hc
    exact .cons (.plain printable quote slash) (ih hcs)

def Digits (s : List Char) : Prop := ∀ c ∈ s, isDigit c = true

/-- The digits before the point: a zero stands alone. -/
inductive Whole : List Char → Prop
  | zero : Whole ['0']
  | digits {c : Char} {s : List Char} : isDigit c = true → c ≠ '0' → Digits s → Whole (c :: s)

inductive Fraction : List Char → Prop
  | none : Fraction []
  | digits {c : Char} {s : List Char} : isDigit c = true → Digits s → Fraction ('.' :: c :: s)

inductive Exponent : List Char → Prop
  | none : Exponent []
  | digits {letter c : Char} {sign s : List Char} : letter = 'e' ∨ letter = 'E' →
      sign = [] ∨ sign = ['+'] ∨ sign = ['-'] → isDigit c = true → Digits s →
      Exponent (letter :: (sign ++ c :: s))

inductive Numeral : List Char → Prop
  | mk {sign whole fraction exponent : List Char} : sign = [] ∨ sign = ['-'] → Whole whole →
      Fraction fraction → Exponent exponent →
      Numeral (sign ++ (whole ++ (fraction ++ exponent)))

/-- What stands before an item or a member: blanks, and a comma before all but the first. -/
inductive Lead : Bool → List Char → Prop
  | first {s : List Char} : Blank s → Lead true s
  | comma {before after : List Char} : Blank before → Blank after →
      Lead false (before ++ ',' :: after)

mutual

/-- The characters that write a value. A numeral writes the number that it is read as; one
that is out of range may stand for any. -/
inductive Value.Spelled : Value → List Char → Prop
  | null : Value.Spelled .null ['n', 'u', 'l', 'l']
  | bool (b : Bool) :
      Value.Spelled (.bool b) (if b then ['t', 'r', 'u', 'e'] else ['f', 'a', 'l', 's', 'e'])
  | number {n : Number} {s : List Char} : Numeral s →
      (∀ m, readScalar s = .ok (.number m, []) → m = n) → Value.Spelled (.number n) s
  | string {t : String} {s : List Char} : CharsSpelled t.toList s →
      Value.Spelled (.string t) ('"' :: (s ++ ['"']))
  | array {items : List Value} {s : List Char} : ItemsSpelled true items s →
      Value.Spelled (.array items) ('[' :: (s ++ [']']))
  | object {members : List (String × Value)} {s : List Char} : MembersSpelled true members s →
      Value.Spelled (.object members) ('\x7b' :: (s ++ ['\x7d']))

/-- The items of a list, the first of them or a later one at the head, up to its bracket. -/
inductive ItemsSpelled : Bool → List Value → List Char → Prop
  | nil {first : Bool} {s : List Char} : Blank s → ItemsSpelled first [] s
  | cons {first : Bool} {v : Value} {items : List Value} {lead s rest : List Char} :
      Lead first lead → v.Spelled s → ItemsSpelled false items rest →
      ItemsSpelled first (v :: items) (lead ++ (s ++ rest))

/-- The members of an object, the first of them or a later one at the head, up to its
brace. -/
inductive MembersSpelled : Bool → List (String × Value) → List Char → Prop
  | nil {first : Bool} {s : List Char} : Blank s → MembersSpelled first [] s
  | cons {first : Bool} {name : String} {v : Value} {members : List (String × Value)}
      {lead key before after s rest : List Char} :
      Lead first lead → CharsSpelled name.toList key → Blank before → Blank after →
      v.Spelled s → MembersSpelled false members rest →
      MembersSpelled first ((name, v) :: members)
        (lead ++ '"' :: (key ++ '"' :: (before ++ ':' :: (after ++ (s ++ rest)))))

end

/-- A text that writes a value, with blanks around it. -/
def Value.IsText (v : Value) (text : String) : Prop :=
  ∃ before s after, Blank before ∧ v.Spelled s ∧ Blank after ∧
    text.toList = before ++ (s ++ after)

theorem Blank.nil : Blank [] := fun _ h => absurd h List.not_mem_nil

theorem skipBlanks_blank {s : List Char} (h : Blank s) (rest : List Char) :
    skipBlanks (s ++ rest) = skipBlanks rest :=
  List.dropWhile_append_of_pos h

theorem skipBlanks_cons {c : Char} (h : isBlank c = false) (rest : List Char) :
    skipBlanks (c :: rest) = c :: rest :=
  List.dropWhile_cons_of_neg (by simp [h])

theorem ne_of_isDigit {c d : Char} (hc : isDigit c = true) (hd : isDigit d = false) : c ≠ d := by
  rintro rfl
  rw [hc] at hd
  contradiction

theorem isBlank_of_isDigit {c : Char} (h : isDigit c = true) : isBlank c = false := by
  have space : c ≠ ' ' := ne_of_isDigit h rfl
  have feed : c ≠ '\n' := ne_of_isDigit h rfl
  have tab : c ≠ '\t' := ne_of_isDigit h rfl
  have return' : c ≠ '\r' := ne_of_isDigit h rfl
  simp only [isBlank, Bool.or_eq_false_iff, beq_eq_false_iff_ne]
  exact ⟨⟨⟨space, feed⟩, tab⟩, return'⟩

theorem Whole.head {s : List Char} (h : Whole s) : ∃ c rest, s = c :: rest ∧ isDigit c = true := by
  cases h with
  | zero => exact ⟨'0', [], rfl, rfl⟩
  | digits hc _ _ => exact ⟨_, _, rfl, hc⟩

theorem Numeral.head {s : List Char} (h : Numeral s) :
    ∃ c rest, s = c :: rest ∧ (c = '-' ∨ isDigit c = true) := by
  obtain ⟨rfl | rfl, whole, _, _⟩ := h
  · obtain ⟨c, rest, rfl, hc⟩ := whole.head
    exact ⟨c, _, rfl, .inr hc⟩
  · exact ⟨'-', _, rfl, .inl rfl⟩

def Value.string? : Value → Option String
  | .string s => some s
  | _ => none

def Value.strings? : Value → Option (List String)
  | .array items => items.mapM Value.string?
  | _ => none

/-- A value does not begin with what stands between values, and its first character tells
strings, lists and objects from everything else. -/
theorem Value.Spelled.head {v : Value} {s : List Char} (h : v.Spelled s) :
    ∃ c rest, s = c :: rest ∧ isBlank c = false ∧ c ≠ ']' ∧
      (c = '"' → ∃ t, v = .string t) ∧ (c = '[' → ∃ items, v = .array items) ∧
      (c = '\x7b' → ∃ members, v = .object members) := by
  cases h with
  | null => exact ⟨_, _, rfl, rfl, by decide, by simp, by simp, by simp⟩
  | bool b => cases b <;> exact ⟨_, _, rfl, rfl, by decide, by simp, by simp, by simp⟩
  | number h _ =>
    obtain ⟨c, rest, rfl, rfl | hc⟩ := h.head
    · exact ⟨_, _, rfl, rfl, by decide, by simp, by simp, by simp⟩
    · have bracket : c ≠ ']' := ne_of_isDigit hc rfl
      have quote : c ≠ '"' := ne_of_isDigit hc rfl
      have opening : c ≠ '[' := ne_of_isDigit hc rfl
      have brace : c ≠ '\x7b' := ne_of_isDigit hc rfl
      exact ⟨c, rest, rfl, isBlank_of_isDigit hc, bracket, fun h => absurd h quote,
        fun h => absurd h opening, fun h => absurd h brace⟩
  | string _ => exact ⟨_, _, rfl, rfl, by decide, fun _ => ⟨_, rfl⟩, by simp, by simp⟩
  | array _ => exact ⟨_, _, rfl, rfl, by decide, by simp, fun _ => ⟨_, rfl⟩, by simp⟩
  | object _ => exact ⟨_, _, rfl, rfl, by decide, by simp, by simp, fun _ => ⟨_, rfl⟩⟩

theorem Value.Spelled.length_pos {v : Value} {s : List Char} (h : v.Spelled s) : 0 < s.length := by
  obtain ⟨c, rest, rfl, -⟩ := h.head
  exact Nat.succ_pos _

theorem Value.Spelled.skipBlanks_append {v : Value} {s : List Char} (h : v.Spelled s)
    (rest : List Char) : skipBlanks (s ++ rest) = s ++ rest := by
  obtain ⟨c, tail, rfl, hc, -⟩ := h.head
  exact skipBlanks_cons hc (tail ++ rest)

theorem nextItem_close {s : List Char} (h : Blank s) (first : Bool) (rest : List Char) :
    nextItem first (s ++ ']' :: rest) = .ok (.close rest) := by
  rw [nextItem, skipBlanks_blank h, skipBlanks_cons rfl]
  rfl

theorem nextItem_lead {first : Bool} {lead s : List Char} {v : Value} (hl : Lead first lead)
    (hv : v.Spelled s) (rest : List Char) :
    nextItem first (lead ++ (s ++ rest)) = .ok (.item (s ++ rest)) := by
  have start := hv.skipBlanks_append rest
  obtain ⟨c, tail, rfl, hc, bracket, -⟩ := hv.head
  rw [List.cons_append] at start ⊢
  cases hl with
  | first h =>
    simp [nextItem, skipBlanks_blank h, start]
  | @comma before after hb ha =>
    have gap := skipBlanks_cons (c := ',') rfl (after ++ c :: (tail ++ rest))
    simp [nextItem, skipBlanks_blank hb, gap, skipBlanks_blank ha, start, bracket]

theorem nextMember_close {s : List Char} (h : Blank s) (first : Bool) (rest : List Char) :
    nextMember first (s ++ '\x7d' :: rest) = .ok (.close rest) := by
  rw [nextMember, skipBlanks_blank h, skipBlanks_cons rfl]
  rfl

theorem nextMember_lead {first : Bool} {lead : List Char} (hl : Lead first lead)
    (rest : List Char) : nextMember first (lead ++ '"' :: rest) = .ok (.item rest) := by
  cases hl with
  | first h =>
    rw [nextMember, skipBlanks_blank h, skipBlanks_cons rfl]
    rfl
  | @comma before after hb ha =>
    have gap := skipBlanks_cons (c := ',') rfl (after ++ '"' :: rest)
    have quote := skipBlanks_cons (c := '"') rfl rest
    simp [nextMember, skipBlanks_blank hb, gap, skipBlanks_blank ha, quote]

theorem readColon_spelled {s : List Char} (h : Blank s) (rest : List Char) :
    readColon (s ++ ':' :: rest) = .ok rest := by
  rw [readColon, skipBlanks_blank h, skipBlanks_cons rfl]
  rfl

theorem readUnit_spelled {n : Nat} {digits : List Char} (h : UnitSpelled n digits)
    (rest : List Char) : readUnit (digits ++ rest) = .ok (n, rest) := by
  cases h with
  | @digits c₁ c₂ c₃ c₄ n₁ n₂ n₃ n₄ h₁ h₂ h₃ h₄ =>
    have p₁ := Char.utf8Size_pos c₁
    have p₂ := Char.utf8Size_pos c₂
    have p₃ := Char.utf8Size_pos c₃
    have p₄ := Char.utf8Size_pos c₄
    have enough : ¬ byteSize (c₁ :: c₂ :: c₃ :: c₄ :: rest) < 4 := by
      simp only [byteSize]
      omega
    simp only [List.cons_append, List.nil_append, readUnit, if_neg enough, h₁, h₂, h₃, h₄]

theorem readCodePoint_unit {n : Nat} {digits : List Char} (h : UnitSpelled n digits)
    (hn : n < 0xd800 ∨ 0xdfff < n) (rest : List Char) :
    readCodePoint (digits ++ rest) = .ok (Char.ofNat n, rest) := by
  have trailing : ¬ (0xdc00 ≤ n ∧ n ≤ 0xdfff) := by omega
  have leading : ¬ (0xd800 ≤ n ∧ n ≤ 0xdbff) := by omega
  simp only [readCodePoint, readUnit_spelled h, bind, Except.bind, if_neg trailing, if_neg leading]

theorem readCodePoint_surrogates {high low : Nat} {leading trailing : List Char}
    (hh : UnitSpelled high leading) (h₁ : 0xd800 ≤ high) (h₂ : high ≤ 0xdbff)
    (hl : UnitSpelled low trailing) (h₃ : 0xdc00 ≤ low) (h₄ : low ≤ 0xdfff) (rest : List Char) :
    readCodePoint (leading ++ '\\' :: 'u' :: (trailing ++ rest)) =
      .ok (Char.ofNat (0x10000 + (high - 0xd800) * 0x400 + (low - 0xdc00)), rest) := by
  have lone : ¬ (0xdc00 ≤ high ∧ high ≤ 0xdfff) := by omega
  simp only [readCodePoint, readUnit_spelled hh, readUnit_spelled hl, bind, Except.bind,
    if_neg lone, if_pos (And.intro h₁ h₂), if_pos (And.intro h₃ h₄)]

theorem readEscape_spelled {c : Char} {s : List Char} (h : CharSpelled c ('\\' :: s))
    (rest : List Char) : readEscape (s ++ rest) = .ok (c, rest) := by
  generalize hs : '\\' :: s = escape at h
  cases h with
  | plain _ _ hc => exact absurd (List.cons.inj hs).1.symm hc
  | short h =>
    obtain rfl := (List.cons.inj hs).2
    simp only [shortEscapes, List.mem_cons, List.not_mem_nil, or_false, Prod.mk.injEq] at h
    rcases h with ⟨rfl, rfl⟩ | ⟨rfl, rfl⟩ | ⟨rfl, rfl⟩ | ⟨rfl, rfl⟩ | ⟨rfl, rfl⟩ | ⟨rfl, rfl⟩ |
      ⟨rfl, rfl⟩ | ⟨rfl, rfl⟩ <;> rfl
  | unit h hn =>
    obtain rfl := (List.cons.inj hs).2
    exact readCodePoint_unit h hn rest
  | surrogates hh h₁ h₂ hl h₃ h₄ =>
    obtain rfl := (List.cons.inj hs).2
    simp only [List.cons_append, List.append_assoc]
    exact readCodePoint_surrogates hh h₁ h₂ hl h₃ h₄ rest

theorem CharSpelled.plain_or_escape {c : Char} {s : List Char} (h : CharSpelled c s) :
    (s = [c] ∧ 0x20 ≤ c.toNat ∧ c ≠ '"' ∧ c ≠ '\\') ∨ ∃ escape, s = '\\' :: escape := by
  cases h with
  | plain h₁ h₂ h₃ => exact .inl ⟨rfl, h₁, h₂, h₃⟩
  | short _ => exact .inr ⟨_, rfl⟩
  | unit _ _ => exact .inr ⟨_, rfl⟩
  | surrogates _ _ _ _ _ _ => exact .inr ⟨_, rfl⟩

theorem readCharacters_cons {c : Char} {s : List Char} (h : CharSpelled c s) (clock : Nat)
    (rest : List Char) :
    readCharacters (clock + 1) (s ++ rest) =
      (readCharacters clock rest).map fun p => (c :: p.1, p.2) := by
  obtain ⟨rfl, hc, hquote, hslash⟩ | ⟨escape, rfl⟩ := h.plain_or_escape
  · have noControl : ¬ c.toNat < 0x20 := by omega
    rw [List.singleton_append, readCharacters, if_neg noControl]
    · cases readCharacters clock rest <;> rfl
    · exact hquote
    · exact hslash
  · rw [List.cons_append, readCharacters, readEscape_spelled h]
    simp only [bind, Except.bind]
    cases readCharacters clock rest <;> rfl

theorem readCharacters_spelled {cs s : List Char} (h : CharsSpelled cs s) {clock : Nat}
    (hclock : s.length < clock) (rest : List Char) :
    readCharacters clock (s ++ '"' :: rest) = .ok (cs, rest) := by
  induction h generalizing clock with
  | nil =>
    cases clock with
    | zero => simp at hclock
    | succ clock => rfl
  | @cons c cs s rest' hc _ ih =>
    have hs : 0 < s.length := by
      obtain ⟨rfl, -⟩ | ⟨escape, rfl⟩ := hc.plain_or_escape <;> simp
    rw [List.length_append] at hclock
    cases clock with
    | zero => omega
    | succ clock =>
      rw [List.append_assoc, readCharacters_cons hc, ih (by omega)]
      rfl

/-- A string is read whole, whichever way its characters are written. -/
theorem readString_spelled {t : String} {s : List Char} (h : CharsSpelled t.toList s)
    (rest : List Char) : readString (s ++ '"' :: rest) = .ok (t, rest) := by
  have read : readCharacters ((s ++ '"' :: rest).length + 1) (s ++ '"' :: rest) =
      .ok (t.toList, rest) := by
    apply readCharacters_spelled h
    rw [List.length_append]
    omega
  rw [readString, read]
  simp only [bind, Except.bind, String.ofList_toList]

end CreationLoader.Json
