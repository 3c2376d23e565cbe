import CreationLoader.Json.Reader
import CreationLoader.Proofs.MergeLaws

/-!
# Names stand once

In a well-formed value every object holds each name once. The type of values does not say so, but
whatever is read from a text is well-formed: a name that a text repeats is set again, and stands
where it stood first.
-/

namespace CreationLoader

namespace Params
open Association
variable {α : Type}

theorem mem_of_mem_ofList {entries : List (String × α)} {e : String × α}
    (h : e ∈ (ofList entries).entries) : e ∈ entries := by
  have hfind : entries.reverse.lookup e.1 = some e.2 := by
    rw [← get?_ofList, get?]
    exact lookup_of_mem h (ofList entries).nodup
  exact List.mem_reverse.mp (mem_of_lookup hfind)

end Params

namespace Json

def Number.IsInteger : Number → Prop
  | integer _ => True
  | float _ => False

namespace Value

/-- Every number in the value is one of some, and every object in it holds each name once. -/
inductive WellFormed (numbers : Number → Prop) : Value → Prop
  | null : WellFormed numbers .null
  | bool (b : Bool) : WellFormed numbers (.bool b)
  | number {n : Number} : numbers n → WellFormed numbers (.number n)
  | string (s : String) : WellFormed numbers (.string s)
  | array {items : List Value} : (∀ x ∈ items, WellFormed numbers x) →
      WellFormed numbers (.array items)
  | object {members : List (String × Value)} : (members.map Prod.fst).Nodup →
      (∀ e ∈ members, WellFormed numbers e.2) → WellFormed numbers (.object members)

end Value

/-- Whatever a reader gives is one of some. -/
def Gives {ε α : Type} (p : α → Prop) (x : Except ε (α × List Char)) : Prop :=
  ∀ a rest, x = .ok (a, rest) → p a

namespace Gives
variable {ε α β γ : Type} {p : α → Prop} {q : β → Prop}

theorem error {e : ε} : Gives p (.error e) := fun _ _ h => nomatch h

theorem ok {a : α} {rest : List Char} (h : p a) : Gives p (.ok (a, rest) : Except ε _) := by
  rintro b rest ⟨⟩
  exact h

theorem bind {x : Except ε γ} {f : γ → Except ε (β × List Char)} (h : ∀ c, Gives q (f c)) :
    Gives q (x >>= f) := by
  cases x with
  | error e => exact error
  | ok c => exact h c

theorem andThen {x : Except ε (α × List Char)} {f : α × List Char → Except ε (β × List Char)}
    (hx : Gives p x) (h : ∀ a rest, p a → Gives q (f (a, rest))) : Gives q (x >>= f) := by
  cases x with
  | error e => exact error
  | ok c => exact h c.1 c.2 (hx c.1 c.2 rfl)

end Gives

theorem readScalar_wellFormed (s : List Char) :
    Gives (Value.WellFormed fun _ => True) (readScalar s) := by
  unfold readScalar
  split
  · exact .error
  · exact .bind fun _ => .ok .null
  · exact .bind fun _ => .ok (.bool true)
  · exact .bind fun _ => .ok (.bool false)
  · exact .bind fun _ => .ok (.string _)
  · exact .bind fun _ => .ok (.number trivial)
  · split
    · exact .bind fun _ => .ok (.number trivial)
    · exact .error

section
variable {α : Type} {p : α → Prop} {item : List Char → Except Fault (α × List Char)}

theorem readItems_gives (h : ∀ s, Gives p (item s)) (clock : Nat) (first : Bool) (s : List Char) :
    Gives (fun values => ∀ v ∈ values, p v) (readItems item clock first s) := by
  induction clock generalizing first s with
  | zero => exact .error
  | succ clock ih =>
    refine .bind fun next => ?_
    cases next with
    | close rest => exact .ok fun v hv => nomatch hv
    | item rest =>
      refine (h rest).andThen fun v rest hv =>
        (ih false rest).andThen fun values rest hvalues => .ok ?_
      exact List.forall_mem_cons.mpr ⟨hv, hvalues⟩

theorem readMembers_gives (h : ∀ s, Gives p (item s)) (clock : Nat) (first : Bool)
    (s : List Char) :
    Gives (fun members => ∀ e ∈ members, p e.2) (readMembers item clock first s) := by
  induction clock generalizing first s with
  | zero => exact .error
  | succ clock ih =>
    refine .bind fun next => ?_
    cases next with
    | close rest => exact .ok fun e he => nomatch he
    | item rest =>
      refine .bind fun name => .bind fun rest => (h rest).andThen fun v rest hv =>
        (ih false rest).andThen fun members rest hmembers => .ok ?_
      exact List.forall_mem_cons.mpr ⟨hv, hmembers⟩

end

/-- The induction is on the levels that may still be opened, as the reader goes. -/
theorem readValue_wellFormed (depth : Nat) (s : List Char) :
    Gives (Value.WellFormed fun _ => True) (readValue depth s) := by
  induction depth generalizing s with
  | zero =>
    unfold readValue
    split
    · exact .error
    · exact .error
    · exact readScalar_wellFormed _
  | succ depth ih =>
    unfold readValue
    split
    · exact (readItems_gives ih _ _ _).andThen fun items _ hitems => .ok (.array hitems)
    · refine (readMembers_gives ih _ _ _).andThen fun members _ hmembers => .ok (.object ?_ ?_)
      · exact (Params.ofList members).nodup
      · exact fun e he => hmembers e (Params.mem_of_mem_ofList he)
    · exact readScalar_wellFormed _

theorem readParams_wellFormed (s : List Char) :
    Gives (fun p : Params Value => ∀ e ∈ p.entries, e.2.WellFormed fun _ => True)
      (readParams s) := by
  unfold readParams
  split
  · exact .error
  · refine (readMembers_gives (readValue_wellFormed _) _ _ _).andThen fun members _ hmembers => ?_
    exact .ok fun e he => hmembers e (Params.mem_of_mem_ofList he)
  · exact .error

theorem of_readWhole {α : Type} {p : α → Prop} {reader : List Char → Except Fault (α × List Char)}
    (h : ∀ s, Gives p (reader s)) {text : String} {a : α} (ha : readWhole reader text = .ok a) :
    p a := by
  unfold readWhole at ha
  split at ha
  · exact nomatch ha
  next value rest hread =>
    split at ha
    · obtain rfl : value = a := Except.ok.inj ha
      exact h text.toList value rest hread
    · exact nomatch ha

/-- In what a text writes every object holds each name once, whatever the text repeats. -/
theorem Value.wellFormed_of_parse {text : String} {v : Value} (h : Value.parse text = .ok v) :
    v.WellFormed fun _ => True :=
  of_readWhole (readValue_wellFormed depthLimit) h

end Json

namespace Params
open Json (Number Value)

/-- Every number in the parameters is one of some, and every object in them holds each name
once. -/
def WellFormed (numbers : Number → Prop) (p : Params Value) : Prop :=
  ∀ e ∈ p.entries, e.2.WellFormed numbers

theorem wellFormed_of_parse {text : String} {p : Params Value} (h : Params.parse text = .ok p) :
    p.WellFormed fun _ => True :=
  Json.of_readWhole Json.readParams_wellFormed h

end Params

end CreationLoader
