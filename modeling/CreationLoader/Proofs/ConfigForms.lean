import CreationLoader.Proofs.ConfigTexts
import CreationLoader.Proofs.Merging

/-!
# What writes a configuration

A configuration is written as an object, in any order and among whatever other members, or as a
list of up to two items. Here it is said which JSON values write one, without the reader. Main
statement: of every JSON text the reader makes the configuration that its value writes, and
refuses the text if the value writes none.
-/

namespace CreationLoader.Json.Value

def texts (ts : List String) : Value := .array (ts.map .string)

theorem string?_eq_some_iff {v : Value} {t : String} : v.string? = some t ↔ v = .string t := by
  cases v <;> simp [string?]

theorem mapM_string?_eq_some_iff {items : List Value} {ts : List String} :
    items.mapM string? = some ts ↔ items = ts.map .string := by
  induction items generalizing ts with
  | nil => cases ts <;> simp
  | cons v items ih =>
    cases ts <;> simp [List.mapM_cons, Option.bind_eq_some_iff, string?_eq_some_iff, ih]

theorem strings?_eq_some_iff {v : Value} {ts : List String} :
    v.strings? = some ts ↔ v = .texts ts := by
  cases v <;> simp [strings?, texts, mapM_string?_eq_some_iff]

end CreationLoader.Json.Value

namespace CreationLoader.Config
open Association Json

/-- The values that stand under a name, in their order. -/
def valuesOf (name : String) (members : List (String × Json.Value)) : List Json.Value :=
  (members.filter fun e => e.1 = name).map Prod.snd

/-- A JSON value that writes a configuration. In an object each of the two names stands at most
once, for strings or for a string. A list has up to two such items. What is not given has its
default. -/
inductive Writes : Json.Value → Config → Prop
  | object {members : List (String × Json.Value)} (domains : Option (List String))
      (url : Option String) :
      valuesOf "allowedDomains" members = (domains.map Json.Value.texts).toList →
      valuesOf "polyfillUrl" members = (url.map Json.Value.string).toList →
      Writes (.object members)
        { allowedDomains := (domains.map AllowList.mk).getD .unrestricted
          polyfillUrl := url.getD defaultPolyfillUrl }
  | none : Writes (.array []) ⟨.unrestricted, defaultPolyfillUrl⟩
  | domains (ts : List String) : Writes (.array [.texts ts]) ⟨⟨ts⟩, defaultPolyfillUrl⟩
  | both (ts : List String) (url : String) : Writes (.array [.texts ts, .string url]) ⟨⟨ts⟩, url⟩

theorem valuesOf_cons (name : String) (e : String × Json.Value)
    (members : List (String × Json.Value)) :
    valuesOf name (e :: members) = valuesOf name [e] ++ valuesOf name members := by
  by_cases h : e.1 = name <;> simp [valuesOf, h]

section
variable {α : Type} {write : α → Json.Value} {o o' : Option α}

/-- The value that is written for what is given. -/
def held (write : α → Json.Value) (o : Option α) : List Json.Value := (o.map write).toList

theorem held_inj (hw : ∀ a b, write a = write b → a = b) :
    held write o' = held write o ↔ o' = o := by
  cases o <;> cases o' <;> simp [held]
  exact ⟨hw _ _, congrArg write⟩

theorem held_eq_append_iff {v : Json.Value} :
    held write o' = held write o ++ [v] ↔ o = none ∧ ∃ a, v = write a ∧ o' = some a := by
  cases o <;> cases o' <;> simp [held]
  exact eq_comm

theorem exists_held_of_append {xs ys : List Json.Value} (h : held write o = xs ++ ys) :
    ∃ o', held write o' = xs := by
  cases xs with
  | nil => exact ⟨none, rfl⟩
  | cons v xs =>
    cases o with
    | none => exact nomatch h
    | some a =>
      obtain ⟨rfl, hrest⟩ := List.cons.inj h
      obtain ⟨rfl, -⟩ := List.append_eq_nil_iff.mp hrest.symm
      exact ⟨some a, rfl⟩

end

namespace Members

def domainValues (m : Members) : List Json.Value :=
  held (fun l => .texts l.domains) m.allowedDomains

def urlValues (m : Members) : List Json.Value := held .string m.polyfillUrl

theorem domainValues_inj {m m' : Members} :
    m'.domainValues = m.domainValues ↔ m'.allowedDomains = m.allowedDomains := by
  refine held_inj fun a b h => ?_
  have hmap := Json.Value.array.inj h
  exact congrArg AllowList.mk (List.map_inj_right (fun _ _ => Json.Value.string.inj) |>.mp hmap)

theorem urlValues_inj {m m' : Members} :
    m'.urlValues = m.urlValues ↔ m'.polyfillUrl = m.polyfillUrl :=
  held_inj fun _ _ => Json.Value.string.inj

theorem values_inj {m m' : Members} :
    m'.domainValues = m.domainValues ∧ m'.urlValues = m.urlValues ↔ m = m' := by
  rw [domainValues_inj, urlValues_inj]
  obtain ⟨d, u⟩ := m
  obtain ⟨d', u'⟩ := m'
  rw [Members.mk.injEq, eq_comm, @eq_comm _ u']

theorem add?_domains_iff {m m' : Members} {v : Json.Value} :
    m.add? "allowedDomains" v = some m' ↔
      (m.allowedDomains = none ∧ ∃ l, v = .texts l.domains ∧ m'.allowedDomains = some l) ∧
        m'.polyfillUrl = m.polyfillUrl := by
  obtain ⟨d, u⟩ := m
  obtain ⟨d', u'⟩ := m'
  cases d with
  | some l => simp [add?]
  | none =>
    simp only [add?, if_true, Option.isSome_none, Bool.false_eq_true, if_false, true_and,
      Option.map_eq_some_iff, Json.Value.strings?_eq_some_iff, Members.mk.injEq]
    constructor
    · rintro ⟨ts, rfl, rfl, rfl⟩
      exact ⟨⟨⟨ts⟩, rfl, rfl⟩, rfl⟩
    · rintro ⟨⟨l, rfl, rfl⟩, rfl⟩
      exact ⟨l.domains, rfl, rfl, rfl⟩

theorem add?_url_iff {m m' : Members} {v : Json.Value} :
    m.add? "polyfillUrl" v = some m' ↔
      m'.allowedDomains = m.allowedDomains ∧
        m.polyfillUrl = none ∧ ∃ url, v = .string url ∧ m'.polyfillUrl = some url := by
  obtain ⟨d, u⟩ := m
  obtain ⟨d', u'⟩ := m'
  cases u with
  | some url => simp [add?]
  | none =>
    have notDomains : ¬ "polyfillUrl" = "allowedDomains" := by decide
    simp only [add?, if_neg notDomains, if_true, Option.isSome_none, Bool.false_eq_true, if_false,
      true_and, Option.map_eq_some_iff, Json.Value.string?_eq_some_iff, Members.mk.injEq]
    constructor
    · rintro ⟨url, rfl, rfl, rfl⟩
      exact ⟨rfl, url, rfl, rfl⟩
    · rintro ⟨rfl, url, rfl, rfl⟩
      exact ⟨url, rfl, rfl, rfl⟩

/-- One more member: its value is read behind those that were read under its name. -/
theorem add?_eq_some_iff {m m' : Members} {e : String × Json.Value} :
    m.add? e.1 e.2 = some m' ↔
      m'.domainValues = m.domainValues ++ valuesOf "allowedDomains" [e] ∧
        m'.urlValues = m.urlValues ++ valuesOf "polyfillUrl" [e] := by
  obtain ⟨name, v⟩ := e
  by_cases isDomains : name = "allowedDomains"
  · subst isDomains
    have hone : valuesOf "allowedDomains" [("allowedDomains", v)] = [v] := rfl
    have hnone : valuesOf "polyfillUrl" [("allowedDomains", v)] = [] := rfl
    rw [add?_domains_iff, hone, hnone, List.append_nil, urlValues_inj]
    exact and_congr_left fun _ => held_eq_append_iff.symm
  · by_cases isUrl : name = "polyfillUrl"
    · subst isUrl
      have hone : valuesOf "polyfillUrl" [("polyfillUrl", v)] = [v] := rfl
      have hnone : valuesOf "allowedDomains" [("polyfillUrl", v)] = [] := rfl
      rw [add?_url_iff, hone, hnone, List.append_nil, domainValues_inj]
      exact and_congr_right fun _ => held_eq_append_iff.symm
    · have hdomains : valuesOf "allowedDomains" [(name, v)] = [] := by simp [valuesOf, isDomains]
      have hurl : valuesOf "polyfillUrl" [(name, v)] = [] := by simp [valuesOf, isUrl]
      have hadd : m.add? name v = some m := by simp [add?, isDomains, isUrl]
      rw [hadd, hdomains, hurl, List.append_nil, List.append_nil, values_inj, Option.some.injEq]

theorem addAll?_eq_some_iff {members : List (String × Json.Value)} {m m' : Members} :
    m.addAll? members = some m' ↔
      m'.domainValues = m.domainValues ++ valuesOf "allowedDomains" members ∧
        m'.urlValues = m.urlValues ++ valuesOf "polyfillUrl" members := by
  induction members generalizing m with
  | nil =>
    have hfold : m.addAll? [] = some m := rfl
    have hnone (name : String) : valuesOf name [] = [] := rfl
    rw [hfold, hnone, hnone, List.append_nil, List.append_nil, values_inj, Option.some.injEq]
  | cons e rest ih =>
    have hfold : m.addAll? (e :: rest) = (m.add? e.1 e.2).bind fun m => m.addAll? rest := rfl
    rw [hfold, Option.bind_eq_some_iff, valuesOf_cons, valuesOf_cons "polyfillUrl",
      ← List.append_assoc, ← List.append_assoc]
    constructor
    · rintro ⟨m₁, hadd, hrest⟩
      obtain ⟨hd, hu⟩ := add?_eq_some_iff.mp hadd
      rw [← hd, ← hu]
      exact ih.mp hrest
    · rintro ⟨hd, hu⟩
      -- What can hold all the values can hold the first of them, so the first member is read.
      obtain ⟨d, hd₁⟩ := exists_held_of_append hd
      obtain ⟨u, hu₁⟩ := exists_held_of_append hu
      refine ⟨⟨d, u⟩, add?_eq_some_iff.mpr ⟨hd₁, hu₁⟩, ih.mpr ⟨?_, ?_⟩⟩
      · exact hd.trans (congrArg (· ++ _) hd₁.symm)
      · exact hu.trans (congrArg (· ++ _) hu₁.symm)

end Members

def isKnown (e : String × Json.Value) : Bool :=
  e.1 == "allowedDomains" || e.1 == "polyfillUrl"

/-- What stands under a known name hangs on the known members alone. -/
theorem valuesOf_perm {name : String} {members others : List (String × Json.Value)}
    (hname : ∀ v, isKnown (name, v) = true)
    (h : (others.filter isKnown).Perm (members.filter isKnown)) :
    (valuesOf name others).Perm (valuesOf name members) := by
  have hfilter (list : List (String × Json.Value)) :
      valuesOf name list = valuesOf name (list.filter isKnown) := by
    simp only [valuesOf, List.filter_filter]
    congr 1
    refine List.filter_congr fun e _ => ?_
    obtain ⟨other, v⟩ := e
    by_cases he : other = name
    · subst he
      simp [hname v]
    · simp [he]
  rw [hfilter others, hfilter members]
  exact (h.filter _).map _

theorem eq_toList_of_perm {xs : List Json.Value} {o : Option Json.Value}
    (h : xs.Perm o.toList) : xs = o.toList := by
  cases o with
  | none => exact List.perm_nil.mp h
  | some v => exact List.perm_singleton.mp h

/-- Neither the order of the members nor any other member makes a difference. -/
theorem Writes.of_perm {members others : List (String × Json.Value)} {c : Config}
    (h : Writes (.object members) c)
    (hperm : (others.filter isKnown).Perm (members.filter isKnown)) :
    Writes (.object others) c := by
  cases h with
  | object domains url hdomains hurl =>
    refine .object domains url (eq_toList_of_perm ?_) (eq_toList_of_perm ?_)
    · exact hdomains ▸ valuesOf_perm (fun _ => rfl) hperm
    · exact hurl ▸ valuesOf_perm (fun _ => rfl) hperm

/-- What the items behind the domains give. -/
def Members.second? (ts : List String) : List Json.Value → Option Members
  | [] => some { allowedDomains := some ⟨ts⟩ }
  | [v] => v.string?.map fun url => ⟨some ⟨ts⟩, some url⟩
  | _ => none

/-- What the items of a list give by position. -/
def Members.positions? : List Json.Value → Option Members
  | [] => some {}
  | v :: items => v.strings?.bind fun ts => second? ts items

def readSecond (ts : List String) (s : List Char) : Except Json.Fault (Members × List Char) := do
  match ← Json.nextItem false s with
  | .close rest => .ok ({ allowedDomains := some ⟨ts⟩ }, rest)
  | .item rest =>
    let (url, rest) ← Json.readText rest
    .ok (⟨some ⟨ts⟩, some url⟩, ← readListEnd rest)

theorem readPositions_item {s rest : List Char} (h : nextItem true s = .ok (.item rest)) :
    readPositions s = readTexts rest >>= fun p => readSecond p.1 p.2 := by
  rw [readPositions, h]
  rfl

theorem readSecond_item {ts : List String} {s rest : List Char}
    (h : nextItem false s = .ok (.item rest)) :
    readSecond ts s =
      readText rest >>= fun p => readListEnd p.2 >>= fun rest =>
        .ok (⟨some ⟨ts⟩, some p.1⟩, rest) := by
  rw [readSecond, h]
  rfl

theorem readListEnd_comma {s rest : List Char} (h : skipBlanks s = ',' :: rest) :
    (readListEnd s).toOption = none := by
  simp only [readListEnd, h]
  split <;> rfl

theorem readListEnd_spelled {items : List Json.Value} {s : List Char}
    (h : ItemsSpelled false items s) (rest : List Char) :
    (readListEnd (s ++ ']' :: rest)).toOption = if items = [] then some rest else none := by
  cases h with
  | nil h =>
    rw [readListEnd, skipBlanks_blank h, skipBlanks_cons rfl]
    rfl
  | cons hl hv hs =>
    cases hl with
    | comma hb ha =>
      rw [if_neg (List.cons_ne_nil _ _), List.append_assoc, List.append_assoc, List.cons_append]
      exact readListEnd_comma ((skipBlanks_blank hb _).trans (skipBlanks_cons rfl _))

theorem readSecond_spelled {items : List Json.Value} {s : List Char} (ts : List String)
    (h : ItemsSpelled false items s) (rest : List Char) :
    (readSecond ts (s ++ ']' :: rest)).toOption =
      (Members.second? ts items).map fun m => (m, rest) := by
  cases h with
  | nil h =>
    rw [readSecond, nextItem_close h]
    rfl
  | @cons _ v items lead s tail hl hv hs =>
    have hurl := readText_spelled Blank.nil hv (tail ++ ']' :: rest)
    rw [List.nil_append] at hurl
    rw [List.append_assoc, List.append_assoc, readSecond_item (nextItem_lead hl hv _),
      toOption_bind, hurl]
    have hend (url : String) :
        (readListEnd (tail ++ ']' :: rest) >>= fun rest =>
          .ok ((⟨some ⟨ts⟩, some url⟩ : Members), rest)).toOption =
        if items = [] then some (⟨some ⟨ts⟩, some url⟩, rest) else none := by
      rw [toOption_bind, readListEnd_spelled hs]
      split <;> rfl
    cases items with
    | nil =>
      rw [Members.second?, Option.map_map]
      cases v.string? with
      | none => rfl
      | some url => exact hend url
    | cons u items =>
      cases v.string? with
      | none => rfl
      | some url => exact hend url

theorem readPositions_spelled {items : List Json.Value} {s : List Char}
    (h : ItemsSpelled true items s) (rest : List Char) :
    (readPositions (s ++ ']' :: rest)).toOption =
      (Members.positions? items).map fun m => (m, rest) := by
  cases h with
  | nil h =>
    rw [readPositions, nextItem_close h]
    rfl
  | @cons _ v items lead s tail hl hv hs =>
    have hdomains := readTexts_spelled Blank.nil hv (tail ++ ']' :: rest)
    rw [List.nil_append] at hdomains
    rw [List.append_assoc, List.append_assoc, readPositions_item (nextItem_lead hl hv _),
      toOption_bind, hdomains, Members.positions?]
    cases v.strings? with
    | none => rfl
    | some ts => exact readSecond_spelled ts hs rest

/-- The members that a value gives, by name or by position. -/
def Members.of? : Json.Value → Option Members
  | .object members => Members.addAll? {} members
  | .array items => positions? items
  | _ => none

theorem read_spelled {v : Json.Value} {before s : List Char} (hb : Blank before)
    (hv : v.Spelled s) (rest : List Char) :
    (read (before ++ (s ++ rest))).toOption =
      ((Members.of? v).map ofMembers).map fun c => (c, rest) := by
  have start := hv.skipBlanks_append rest
  cases hs : v with
  | object members =>
    subst hs
    exact read_object hb hv rest
  | array items =>
    subst hs
    cases hv with
    | array h =>
      rw [List.cons_append, List.append_assoc, List.singleton_append] at start ⊢
      rw [read, skipBlanks_blank hb, start]
      exact toOption_bind_ok (readPositions_spelled h rest) ofMembers
  | _ =>
    obtain ⟨c, tail, rfl, -, -, -, opening, brace⟩ := hv.head
    have noList : c ≠ '[' := by
      intro h
      obtain ⟨items, heq⟩ := opening h
      exact absurd (hs.symm.trans heq) (by simp)
    have noObject : c ≠ '\x7b' := by
      intro h
      obtain ⟨members, heq⟩ := brace h
      exact absurd (hs.symm.trans heq) (by simp)
    rw [List.cons_append] at start ⊢
    simp [read, skipBlanks_blank hb, start, noList, noObject, Members.of?, Except.toOption]

theorem parse_isText {v : Json.Value} {text : String} (h : v.IsText text) :
    (parse text).toOption = (Members.of? v).map ofMembers := by
  obtain ⟨before, s, after, hb, hs, ha, htext⟩ := h
  have known := read_spelled hb hs after
  rw [← htext] at known
  exact toOption_readWhole known ha

/-- Both forms of what an object writes: the members that are read from it, and the values that
stand under the known names. -/
theorem addAll?_iff_writes {members : List (String × Json.Value)} {c : Config} :
    (∃ m, Members.addAll? {} members = some m ∧ ofMembers m = c) ↔ Writes (.object members) c := by
  constructor
  · rintro ⟨⟨domains, url⟩, hm, rfl⟩
    obtain ⟨hdomains, hurl⟩ := Members.addAll?_eq_some_iff.mp hm
    have hwrites : Writes (.object members) _ :=
      .object (domains.map AllowList.domains) url
        (by simpa [Members.domainValues, held, Function.comp_def] using hdomains.symm)
        (by simpa [Members.urlValues, held] using hurl.symm)
    cases domains <;> exact hwrites
  · intro h
    cases h with
    | object domains url hdomains hurl =>
      refine ⟨⟨domains.map AllowList.mk, url⟩, Members.addAll?_eq_some_iff.mpr ⟨?_, ?_⟩, ?_⟩
      · simp [Members.domainValues, held, hdomains, Function.comp_def]
      · simp [Members.urlValues, held, hurl]
      · cases domains <;> rfl

theorem positions?_iff_writes {items : List Json.Value} {c : Config} :
    (∃ m, Members.positions? items = some m ∧ ofMembers m = c) ↔ Writes (.array items) c := by
  constructor
  · rintro ⟨m, hm, rfl⟩
    cases items with
    | nil =>
      obtain rfl := Option.some.inj hm
      exact .none
    | cons v items =>
      obtain ⟨ts, hts, hsecond⟩ := Option.bind_eq_some_iff.mp hm
      obtain rfl := Json.Value.strings?_eq_some_iff.mp hts
      match items, hsecond with
      | [], hsecond =>
        obtain rfl := Option.some.inj hsecond
        exact .domains ts
      | [_], hsecond =>
        obtain ⟨url, hurl, rfl⟩ := Option.map_eq_some_iff.mp hsecond
        obtain rfl := Json.Value.string?_eq_some_iff.mp hurl
        exact .both ts url
  · intro h
    have htexts (ts : List String) : (Json.Value.texts ts).strings? = some ts :=
      Json.Value.strings?_eq_some_iff.mpr rfl
    cases h with
    | none => exact ⟨_, rfl, rfl⟩
    | domains ts => exact ⟨_, by rw [Members.positions?, htexts]; rfl, rfl⟩
    | both ts url => exact ⟨_, by rw [Members.positions?, htexts]; rfl, rfl⟩

theorem of?_iff_writes {v : Json.Value} {c : Config} :
    (Members.of? v).map ofMembers = some c ↔ Writes v c := by
  rw [Option.map_eq_some_iff]
  cases v with
  | object members => exact addAll?_iff_writes
  | array items => exact positions?_iff_writes
  | _ => exact ⟨fun ⟨_, hm, _⟩ => (nomatch hm), fun h => (nomatch h)⟩

/-- What stands under a name, if it has been given: none if it is not what `read` asks for. -/
def given? {α : Type} (read : Json.Value → Option α) (name : String)
    (members : List (String × Json.Value)) : Option (Option α) :=
  match members.lookup name with
  | none => some none
  | some v => (read v).map some

/-- The configuration that an object writes if no name is repeated: what it gives under the two
known names, and the default for what it does not give. -/
def written? (members : List (String × Json.Value)) : Option Config := do
  let domains ← given? Json.Value.strings? "allowedDomains" members
  let url ← given? Json.Value.string? "polyfillUrl" members
  some { allowedDomains := (domains.map AllowList.mk).getD .unrestricted
         polyfillUrl := url.getD defaultPolyfillUrl }

theorem valuesOf_of_nodup {name : String} {members : List (String × Json.Value)}
    (hnodup : (members.map Prod.fst).Nodup) :
    valuesOf name members = (members.lookup name).toList := by
  induction members with
  | nil => rfl
  | cons e rest ih =>
    obtain ⟨other, v⟩ := e
    obtain ⟨hnot, hrest⟩ := List.nodup_cons.mp hnodup
    rw [valuesOf_cons, ih hrest]
    by_cases h : other = name
    · subst h
      simp [valuesOf, lookup_eq_none hnot]
    · simp [valuesOf, lookup_cons, h]

theorem given?_eq_some_iff {α : Type} {read : Json.Value → Option α} {write : α → Json.Value}
    (hread : ∀ v a, read v = some a ↔ v = write a) {name : String}
    {members : List (String × Json.Value)} {o : Option α} :
    given? read name members = some o ↔ (members.lookup name).toList = (o.map write).toList := by
  cases h : members.lookup name <;> cases o <;> simp [given?, h, hread]

theorem written?_iff_writes {members : List (String × Json.Value)}
    (hnodup : (members.map Prod.fst).Nodup) {c : Config} :
    written? members = some c ↔ Writes (.object members) c := by
  simp only [written?, Option.bind_eq_bind, Option.bind_eq_some_iff, Option.some.injEq,
    given?_eq_some_iff fun _ _ => Json.Value.strings?_eq_some_iff,
    given?_eq_some_iff fun _ _ => Json.Value.string?_eq_some_iff, ← valuesOf_of_nodup hnodup]
  constructor
  · rintro ⟨domains, hdomains, url, hurl, rfl⟩
    exact .object domains url hdomains hurl
  · intro h
    cases h with
    | object domains url hdomains hurl => exact ⟨domains, hdomains, url, hurl, rfl⟩

/-- A text of an object with distinct names is read as the configuration that the object
writes, and refused if it writes none. -/
theorem parse_written {members : List (String × Json.Value)} {text : String}
    (hnodup : (members.map Prod.fst).Nodup) (h : (Json.Value.object members).IsText text) :
    (parse text).toOption = written? members := by
  refine Option.ext fun c => ?_
  rw [parse_isText h, of?_iff_writes, written?_iff_writes hnodup]

/-- A text of a JSON value is read as the configuration that the value writes, and refused if it
writes none. Whatever text it is of an object, and in whatever order the members of the object
stand, only the known members count: with the same known members and any others, anywhere among
them, another object is read as the same configuration or is refused like it. -/
theorem parse_iff_writes {v : Json.Value} {text : String} (htext : v.IsText text) :
    (∀ c, parse text = .ok c ↔ Writes v c) ∧
    ((∀ c, ¬ Writes v c) → ∃ e, parse text = .error e) ∧
    ∀ members others text', v = .object members →
      (others.filter isKnown).Perm (members.filter isKnown) →
      (Json.Value.object others).IsText text' → (parse text').toOption = (parse text).toOption := by
  have hparse (c : Config) : parse text = .ok c ↔ Writes v c := by
    rw [← of?_iff_writes, ← parse_isText htext]
    cases parse text <;> simp [Except.toOption]
  refine ⟨hparse, fun hnone => ?_, ?_⟩
  · cases hc : parse text with
    | error e => exact ⟨e, rfl⟩
    | ok c => exact absurd ((hparse c).mp hc) (hnone c)
  · rintro members others text' rfl hperm hothers
    refine Option.ext fun c => ?_
    rw [parse_isText hothers, parse_isText htext, of?_iff_writes, of?_iff_writes]
    exact ⟨fun h => h.of_perm hperm.symm, fun h => h.of_perm hperm⟩

/-- Among members that are not known, one name twice, and in the other order. -/
theorem parse_among_unknown_members :
    let text :=
      "\x7b\"x\":null,\"polyfillUrl\":\"u\",\"x\":\x7b\x7d,\"allowedDomains\":[\"a\"]\x7d"
    let plain := "\x7b\"allowedDomains\":[\"a\"],\"polyfillUrl\":\"u\"\x7d"
    parse text = .ok { allowedDomains := ⟨["a"]⟩, polyfillUrl := "u" } ∧
      (parse plain).toOption = (parse text).toOption := by
  intro text plain
  let domains : String × Json.Value := ("allowedDomains", .array [.string "a"])
  let url : String × Json.Value := ("polyfillUrl", .string "u")
  let members := [("x", .null), url, ("x", .object []), domains]
  have x : CharsSpelled "x".toList "x".toList := .plain (by decide)
  have a : CharsSpelled "a".toList "a".toList := .plain (by decide)
  have u : CharsSpelled "u".toList "u".toList := .plain (by decide)
  have domainsName : CharsSpelled "allowedDomains".toList "allowedDomains".toList :=
    .plain (by decide)
  have urlName : CharsSpelled "polyfillUrl".toList "polyfillUrl".toList := .plain (by decide)
  have domainsText := Value.Spelled.array (.cons (.first .nil) (.string a) (.nil .nil))
  have spelled := Value.Spelled.object
    (.cons (.first .nil) x .nil .nil .null
      (.cons (.comma .nil .nil) urlName .nil .nil (.string u)
        (.cons (.comma .nil .nil) x .nil .nil (.object (.nil .nil))
          (.cons (.comma .nil .nil) domainsName .nil .nil domainsText (.nil .nil)))))
  have plainSpelled := Value.Spelled.object
    (.cons (.first .nil) domainsName .nil .nil domainsText
      (.cons (.comma .nil .nil) urlName .nil .nil (.string u) (.nil .nil)))
  have htext : (Json.Value.object members).IsText text :=
    ⟨[], _, [], .nil, spelled, .nil, by decide⟩
  have hplain : (Json.Value.object [domains, url]).IsText plain :=
    ⟨[], _, [], .nil, plainSpelled, .nil, by decide⟩
  obtain ⟨hwrites, -, hothers⟩ := parse_iff_writes htext
  refine ⟨(hwrites _).mpr (.object (some ["a"]) (some "u") ?_ ?_), ?_⟩
  · simp [valuesOf, members, url, domains, Json.Value.texts]
  · simp [valuesOf, members, url, domains]
  · have hknown : members.filter isKnown = [url, domains] := by rfl
    have hall : [domains, url].filter isKnown = [domains, url] := by rfl
    exact hothers members _ plain rfl (by rw [hknown, hall]; exact .swap url domains []) hplain

end CreationLoader.Config
