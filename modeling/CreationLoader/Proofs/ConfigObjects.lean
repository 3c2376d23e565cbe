import CreationLoader.Browser.Decode
import CreationLoader.Proofs.ConfigForms
import CreationLoader.Script.Tagged

/-!
# Configurations as texts and as objects

A configuration comes to the loader as a JSON text or as the object of a script. The text is
read member by member; of the object only the two known properties are looked up. Main
statement: where no member is repeated, the text and the object with the same members give the
same configuration, or neither gives one.
-/

namespace CreationLoader.Script
open Association

mutual

/-- A script value that is what JSON writes: lists as arrays, objects as plain objects with the
same members. The order in which an object has got its properties is left open. -/
inductive Heap.Holds (heap : Heap) : Json.Value → Value → Prop
  | null : Heap.Holds heap .null .null
  | bool (b : Bool) : Heap.Holds heap (.bool b) (.bool b)
  | number (n : Json.Number) : Heap.Holds heap (.number n) (.number (Scope.numberOf n))
  | string (s : String) : Heap.Holds heap (.string s) (.string s)
  | array {items : List Json.Value} {ref : Ref} {values : List Value} :
      heap[ref]? = some (.array values) → Heap.HoldsItems heap items values →
      Heap.Holds heap (.array items) (.object ref)
  | object {members : List (String × Json.Value)} {ref : Ref} {properties : Params Value}
      {values : List (String × Value)} :
      heap[ref]? = some (.plain properties) → Heap.HoldsMembers heap members values →
      (∀ name, properties.get? name = (Params.ofList values).get? name) →
      Heap.Holds heap (.object members) (.object ref)

/-- Script values that are what JSON writes, item for item. -/
inductive Heap.HoldsItems (heap : Heap) : List Json.Value → List Value → Prop
  | nil : Heap.HoldsItems heap [] []
  | cons {v : Json.Value} {u : Value} {items : List Json.Value} {values : List Value} :
      Heap.Holds heap v u → Heap.HoldsItems heap items values →
      Heap.HoldsItems heap (v :: items) (u :: values)

/-- Script values under names that are what JSON writes, member for member. -/
inductive Heap.HoldsMembers (heap : Heap) :
    List (String × Json.Value) → List (String × Value) → Prop
  | nil : Heap.HoldsMembers heap [] []
  | cons {name : String} {v : Json.Value} {u : Value} {members : List (String × Json.Value)}
      {values : List (String × Value)} :
      Heap.Holds heap v u → Heap.HoldsMembers heap members values →
      Heap.HoldsMembers heap ((name, v) :: members) ((name, u) :: values)

end

namespace Heap

theorem HoldsMembers.names {heap : Heap} {members : List (String × Json.Value)}
    {values : List (String × Value)} (h : heap.HoldsMembers members values) :
    values.map Prod.fst = members.map Prod.fst := by
  induction members generalizing values with
  | nil =>
    cases h with
    | nil => rfl
  | cons e members ih =>
    cases h with
    | cons _ hs => rw [List.map_cons, List.map_cons, ih hs]

/-- A name stands in both lists or in neither, and for the same value. -/
theorem HoldsMembers.lookup {heap : Heap} {members : List (String × Json.Value)}
    {values : List (String × Value)} (h : heap.HoldsMembers members values) (name : String) :
    (members.lookup name = none ∧ values.lookup name = none) ∨
      ∃ v u, members.lookup name = some v ∧ values.lookup name = some u ∧
        heap.Holds v u := by
  induction members generalizing values with
  | nil =>
    cases h with
    | nil => exact .inl ⟨rfl, rfl⟩
  | cons e members ih =>
    cases h with
    | @cons other v u _ values hv hs =>
      by_cases hn : other = name
      · subst hn
        exact .inr ⟨v, u, List.lookup_cons_self, List.lookup_cons_self, hv⟩
      · simpa [Association.lookup_cons, hn] using ih hs

/-- Under distinct names an object has the properties that it was written with. -/
theorem Holds.property {heap : Heap} {members : List (String × Json.Value)} {u : Value}
    (h : heap.Holds (.object members) u) (hnodup : (members.map Prod.fst).Nodup) :
    ∃ ref properties, u = .object ref ∧ heap.view u = .plain properties ∧ ∀ name,
      (members.lookup name = none ∧ properties.get? name = none) ∨
        ∃ v w, members.lookup name = some v ∧ properties.get? name = some w ∧
          heap.Holds v w := by
  cases h with
  | @object _ ref properties values href hvalues hget =>
    refine ⟨ref, properties, rfl, by simp [view, object?, href], fun name => ?_⟩
    have distinct : (values.map Prod.fst).Nodup := by rw [hvalues.names]; exact hnodup
    have stored : properties.get? name = values.lookup name := by
      rw [hget, Params.get?, Params.ofList_entries distinct]
    rw [stored]
    exact hvalues.lookup name

end Heap

end CreationLoader.Script

namespace CreationLoader.Browser
open Script

theorem readText_holds {heap : Heap} {v : Json.Value} {u : Value} (h : heap.Holds v u) :
    (readText heap u).toOption = v.string? := by
  cases h <;> rfl

theorem mapM_readText_holds {heap : Heap} {items : List Json.Value} {values : List Value}
    (h : heap.HoldsItems items values) :
    (values.mapM (readText heap)).toOption = items.mapM Json.Value.string? := by
  induction items generalizing values with
  | nil =>
    cases h with
    | nil => rfl
  | cons v items ih =>
    cases h with
    | @cons _ u _ values hv hs =>
      rw [List.mapM_cons, List.mapM_cons, Json.toOption_bind, readText_holds hv]
      congr 1
      funext t
      rw [Json.toOption_bind, ih hs]
      rfl

theorem readTexts_holds {heap : Heap} {v : Json.Value} {u : Value} (h : heap.Holds v u) :
    (readTexts heap u).toOption = v.strings? := by
  cases h with
  | array href hs =>
    have read := mapM_readText_holds hs
    simpa [readTexts, Heap.view, Heap.object?, href, Json.Value.strings?] using read
  | object href hs _ =>
    simp [readTexts, Heap.view, Heap.object?, href, Json.Value.strings?, Except.toOption]
  | _ => rfl

theorem optional_holds {α : Type} {heap : Heap} {members : List (String × Json.Value)} {u : Value}
    (h : heap.Holds (.object members) u) (hnodup : (members.map Prod.fst).Nodup) (name : String)
    {read : Value → Except String α} {wanted : Json.Value → Option α}
    (hread : ∀ v w, heap.Holds v w → (read w).toOption = wanted v) :
    (optional heap u name read).toOption = Config.given? wanted name members := by
  obtain ⟨ref, properties, rfl, hview, hproperty⟩ := h.property hnodup
  rw [Config.given?]
  obtain ⟨hnone, hget⟩ | ⟨v, w, hsome, hget, hv⟩ := hproperty name
  · have absent : heap.hasProperty (.object ref) name = false := by
      simp [Heap.hasProperty, hview, Params.contains, hget]
    rw [hnone, optional, absent]
    rfl
  · have present : heap.hasProperty (.object ref) name = true := by
      simp [Heap.hasProperty, hview, Params.contains, hget]
    have value : heap.property (.object ref) name = w := by
      simp [Heap.property, hview, hget]
    simp only [hsome, optional, if_pos present, value, ← hread v w hv]
    cases read w <;> rfl

/-- Only the two known properties of an object are looked up, and give what it writes. -/
theorem readConfig_holds {heap : Heap} {members : List (String × Json.Value)} {u : Value}
    (h : heap.Holds (.object members) u) (hnodup : (members.map Prod.fst).Nodup) :
    (readConfig heap u).toOption = Config.written? members := by
  have domains := optional_holds h hnodup "allowedDomains" (fun _ _ h => readTexts_holds h)
  have url := optional_holds h hnodup "polyfillUrl" (fun _ _ h => readText_holds h)
  obtain ⟨ref, properties, rfl, hview, -⟩ := h.property hnodup
  have object : heap.isObject (.object ref) = true := by simp [Heap.isObject, hview]
  rw [Config.written?, ← domains, ← url]
  simp only [readConfig, object, if_true]
  cases optional heap (.object ref) "allowedDomains" (readTexts heap) with
  | error e => rfl
  | ok domains =>
    cases optional heap (.object ref) "polyfillUrl" (readText heap) with
    | error e => rfl
    | ok url => rfl

end CreationLoader.Browser

namespace CreationLoader.Config
open Script Json

/-- A text of an object without repeated names, however it is written, and a script object with
the same members give the same configuration: the domains and the address that the members
give, and the default for what they do not give. If a known member is not of its type, neither
gives any. -/
theorem text_agrees_with_object {members : List (String × Json.Value)} {text : String}
    {heap : Heap} {u : Script.Value} (hnodup : (members.map Prod.fst).Nodup)
    (htext : (Json.Value.object members).IsText text) (hu : heap.Holds (.object members) u) :
    (parse text).toOption = (Browser.readConfig heap u).toOption ∧
      (Browser.readConfig heap u).toOption = written? members := by
  have fromText := parse_written hnodup htext
  have fromObject := Browser.readConfig_holds hu hnodup
  exact ⟨fromText.trans fromObject.symm, fromObject⟩

/-- A member that is not known, a domain that is written by its code unit, and an object that
has got its properties in another order; the address is the default. -/
theorem text_agrees_with_object_of_domains :
    let heap : Heap :=
      [.plain (Params.ofList [("allowedDomains", .object 1), ("depth", .object 2)]),
        .array [.string "a", .string "\""], .array [.number (Float.ofInt 0)]]
    let text := " \x7b\"depth\":[0],\"allowedDomains\" : [\"a\",\"\\u0022\"]\x7d"
    (parse text).toOption = (Browser.readConfig heap (.object 0)).toOption ∧
      (Browser.readConfig heap (.object 0)).toOption =
        some { allowedDomains := ⟨["a", "\""]⟩, polyfillUrl := defaultPolyfillUrl } := by
  intro heap text
  let depth : Json.Value := .array [.number (.integer 0)]
  let domains : Json.Value := .array [.string "a", .string "\""]
  let members := [("depth", depth), ("allowedDomains", domains)]
  have hnodup : (members.map Prod.fst).Nodup := by decide
  have zero : (Json.Value.number (.integer 0)).Spelled ['0'] := by
    refine .number (.mk (.inl rfl) .zero .none .none) fun m h => ?_
    have read : readScalar ['0'] = .ok (.number (.integer 0), []) := rfl
    rw [read] at h
    simpa using h.symm
  have a : CharsSpelled "a".toList "a".toList := .plain (by decide)
  have unit : UnitSpelled 34 ['0', '0', '2', '2'] :=
    @UnitSpelled.digits _ _ _ _ 0 0 2 2 rfl rfl rfl rfl
  have quote : CharsSpelled "\"".toList ['\\', 'u', '0', '0', '2', '2'] :=
    .cons (.unit unit (.inl (by decide))) .nil
  have depthName : CharsSpelled "depth".toList "depth".toList := .plain (by decide)
  have domainsName : CharsSpelled "allowedDomains".toList "allowedDomains".toList :=
    .plain (by decide)
  have blank : Blank [' '] := by decide
  have depthText := Value.Spelled.array (.cons (.first .nil) zero (.nil .nil))
  have domainsText := Value.Spelled.array
    (.cons (.first .nil) (.string a) (.cons (.comma .nil .nil) (.string quote) (.nil .nil)))
  have spelled := Value.Spelled.object
    (.cons (.first .nil) depthName .nil .nil depthText
      (.cons (.comma .nil .nil) domainsName blank blank domainsText (.nil .nil)))
  have htext : (Json.Value.object members).IsText text :=
    ⟨[' '], _, [], blank, spelled, .nil, by decide⟩
  have hdepth : heap.Holds depth (.object 2) := .array rfl (.cons (.number _) .nil)
  have hdomains : heap.Holds domains (.object 1) :=
    .array rfl (.cons (.string _) (.cons (.string _) .nil))
  have hu : heap.Holds (.object members) (.object 0) := by
    refine .object rfl (.cons hdepth (.cons hdomains .nil)) fun name => ?_
    simp only [Params.ofList, List.foldl_cons, List.foldl_nil, Params.get?_insert]
    by_cases hname : "depth" = name
    · subst hname
      rfl
    · simp only [if_neg hname]
  have agree := text_agrees_with_object hnodup htext hu
  exact ⟨agree.1, agree.2.trans (by decide)⟩

end CreationLoader.Config
