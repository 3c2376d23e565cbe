import CreationLoader.Proofs.Gates
import Mathlib.Data.List.Basic

/-!
# A record narrowed to one gate and URL

Of a record, those loads that one gate has begun for one URL are kept, in their order. What was
at one place of the record is then found at another: there where as many are kept before it.
What a gate knows of the URL can be read off the narrowed record.
-/

namespace CreationLoader
variable {σ τ α β : Type}

/-- Where an element of a list is found among those that are picked from it, if it is one. -/
def placeAmong (p : α → Bool) (l : List α) (place : Nat) : Option Nat :=
  if l[place]?.any p then some ((l.take place).countP p) else none

section
variable {p : α → Bool} {l : List α} {place k : Nat}

theorem placeAmong_isSome (p : α → Bool) (l : List α) (place : Nat) :
    (placeAmong p l place).isSome = l[place]?.any p := by
  unfold placeAmong
  split_ifs with h <;> simp [h]

theorem placeAmong_of_not {a : α} (h : l[place]? = some a) (hp : p a = false) :
    placeAmong p l place = none := by
  simp [placeAmong, h, hp]

theorem placeAmong_append (h : place < l.length) (more : List α) :
    placeAmong p (l ++ more) place = placeAmong p l place := by
  simp only [placeAmong, List.getElem?_append_left h,
    List.take_append_of_le_length (Nat.le_of_lt h)]

theorem placeAmong_concat {a : α} (h : p a = true) :
    placeAmong p (l ++ [a]) l.length = some (l.countP p) := by
  simp [placeAmong, h]

/-- Where something is found hangs on which are picked, and on what they are no more. -/
theorem placeAmong_modify {f : α → α} (hf : ∀ a, p (f a) = p a) (l : List α) (i place : Nat) :
    placeAmong p (l.modify i f) place = placeAmong p l place := by
  have hmap : (l.modify i f).map p = l.map p := by
    apply List.ext_getElem?
    intro n
    rw [List.getElem?_map, List.getElem?_map, List.getElem?_modify]
    cases l[n]? with
    | none => rfl
    | some a => by_cases h : i = n <;> simp [h, hf]
  have hany (m : List α) : m[place]?.any p = (m.map p)[place]?.any id := by
    rw [List.getElem?_map]
    cases m[place]? <;> rfl
  have hcount (m : List α) : (m.take place).countP p = ((m.map p).take place).countP id := by
    rw [← List.map_take, List.countP_map]
    rfl
  simp only [placeAmong, hany, hcount, hmap]

theorem exists_of_getElem? {a : α} (h : l[place]? = some a) :
    l = l.take place ++ a :: l.drop (place + 1) ∧ (l.take place).length = place := by
  obtain ⟨hlt, rfl⟩ := List.getElem?_eq_some_iff.mp h
  constructor
  · rw [← List.drop_eq_getElem_cons hlt, List.take_append_drop]
  · rw [List.length_take]
    omega

variable {g : α → Option β}

theorem map_modify {f : α → α} {f' : β → β} {g : α → β} (hf : ∀ a, g (f a) = f' (g a)) (l : List α)
    (i : Nat) : (l.modify i f).map g = (l.map g).modify i f' := by
  apply List.ext_getElem?
  intro n
  simp only [List.getElem?_map, List.getElem?_modify]
  cases l[n]? with
  | none => rfl
  | some a => by_cases h : i = n <;> simp [h, hf]

theorem length_filterMap (hg : ∀ a ∈ l, (g a).isSome = p a) :
    (l.filterMap g).length = l.countP p := by
  induction l with
  | nil => rfl
  | cons a rest ih =>
    obtain ⟨ha, hrest⟩ := List.forall_mem_cons.mp hg
    rw [List.countP_cons, ← ha, ← ih hrest]
    cases h : g a <;> simp [h]

/-- What is picked stands between what is picked before it and what is picked behind it. -/
theorem filterMap_of_placeAmong (hg : ∀ a ∈ l, (g a).isSome = p a)
    (hk : placeAmong p l place = some k) :
    ∃ a b before rest, l = before ++ a :: rest ∧ before.length = place ∧ g a = some b ∧
      l.filterMap g = before.filterMap g ++ b :: rest.filterMap g ∧
      (before.filterMap g).length = k := by
  unfold placeAmong at hk
  split_ifs at hk with h
  obtain ⟨a, ha, hpa⟩ := (Option.any_eq_true p _).mp h
  obtain ⟨hl, hlength⟩ := exists_of_getElem? ha
  obtain ⟨b, hb⟩ := Option.isSome_iff_exists.mp ((hg a (List.mem_of_getElem? ha)).trans hpa)
  refine ⟨a, b, _, _, hl, hlength, hb, ?_, ?_⟩
  · conv_lhs => rw [hl]
    rw [List.filterMap_append, List.filterMap_cons_some hb]
  · rw [length_filterMap fun c hc => hg c (List.mem_of_mem_take hc)]
    exact Option.some.inj hk

theorem filterMap_of_placeAmong_eq_none (hg : ∀ a ∈ l, (g a).isSome = p a)
    (hk : placeAmong p l place = none) :
    l.length ≤ place ∨ ∃ a before rest, l = before ++ a :: rest ∧ before.length = place ∧
      g a = none := by
  rcases Nat.lt_or_ge place l.length with hlt | hge
  · right
    have ha := List.getElem?_eq_getElem hlt
    obtain ⟨hl, hlength⟩ := exists_of_getElem? ha
    have hpa : p l[place] = false := by
      have h := placeAmong_isSome p l place
      rw [hk, ha] at h
      exact h.symm
    have hga := (hg _ (List.getElem_mem hlt)).trans hpa
    exact ⟨_, _, _, hl, hlength, by simpa using hga⟩
  · exact .inl hge

theorem getElem?_filterMap (hg : ∀ a ∈ l, (g a).isSome = p a)
    (hk : placeAmong p l place = some k) : (l.filterMap g)[k]? = l[place]?.bind g := by
  obtain ⟨a, b, before, rest, hl, rfl, hb, hpicked, rfl⟩ := filterMap_of_placeAmong hg hk
  rw [hpicked, hl]
  simp [hb]

theorem filterMap_eraseIdx_of_some (hg : ∀ a ∈ l, (g a).isSome = p a)
    (hk : placeAmong p l place = some k) :
    (l.eraseIdx place).filterMap g = (l.filterMap g).eraseIdx k := by
  obtain ⟨a, b, before, rest, hl, rfl, hb, hpicked, rfl⟩ := filterMap_of_placeAmong hg hk
  rw [hpicked, hl]
  simp [List.eraseIdx_append_of_length_le]

theorem filterMap_eraseIdx_of_none (hg : ∀ a ∈ l, (g a).isSome = p a)
    (hk : placeAmong p l place = none) : (l.eraseIdx place).filterMap g = l.filterMap g := by
  rcases filterMap_of_placeAmong_eq_none hg hk with h | ⟨a, before, rest, hl, rfl, ha⟩
  · rw [List.eraseIdx_of_length_le h]
  · rw [hl]
    simp [List.eraseIdx_append_of_length_le, ha]

variable {f : α → α} {f' : β → β}

theorem filterMap_modify_of_some (hg : ∀ a ∈ l, (g a).isSome = p a)
    (hf : ∀ a, g (f a) = (g a).map f') (hk : placeAmong p l place = some k) :
    (l.modify place f).filterMap g = (l.filterMap g).modify k f' := by
  obtain ⟨a, b, before, rest, hl, rfl, hb, hpicked, rfl⟩ := filterMap_of_placeAmong hg hk
  rw [hpicked, hl]
  simp [List.modify_eq_take_drop, hf, hb]

theorem filterMap_modify_of_none (hg : ∀ a ∈ l, (g a).isSome = p a)
    (hf : ∀ a, g (f a) = (g a).map f') (hk : placeAmong p l place = none) :
    (l.modify place f).filterMap g = l.filterMap g := by
  rcases filterMap_of_placeAmong_eq_none hg hk with h | ⟨a, before, rest, hl, rfl, ha⟩
  · rw [List.modify_eq_take_drop, List.take_of_length_le h, List.drop_eq_nil_of_le h,
      List.modifyHead_nil, List.append_nil]
  · rw [hl]
    simp [List.modify_eq_take_drop, hf, ha]

end

namespace Load

/-- A load without where it was begun. -/
def bare (l : Load τ) : Load Unit := { l with source := () }

@[simp] theorem isFor_bare (gate : GateId) (url : String) (l : Load τ) :
    l.bare.isFor gate url = l.isFor gate url := rfl

theorem bare_settle (outcome : Outcome) (l : Load τ) :
    (l.settle outcome).bare = l.bare.settle outcome := by
  unfold settle
  cases h : l.isOpen <;> simp_all [isOpen, bare]

theorem bare_deliver (l : Load τ) : l.deliver.bare = l.bare.deliver := by
  cases h : l.progress <;> simp [deliver, bare, h]

/-- A load that is kept when a record is narrowed. -/
def narrow (gate : GateId) (url : String) (l : Load τ) : Option (Load Unit) :=
  if l.isFor gate url then some l.bare else none

theorem narrow_isSome (gate : GateId) (url : String) (l : Load τ) :
    (l.narrow gate url).isSome = l.isFor gate url := by
  cases h : l.isFor gate url <;> simp [narrow, h]

end Load

theorem Load.isFor_other {l : Load τ} {gate gate' : GateId} {url url' : String}
    (h : l.isFor gate' url' = true) (hother : ¬ (gate' = gate ∧ url' = url)) :
    l.isFor gate url = false := by
  rw [Load.isFor_iff] at h
  by_contra hfor
  obtain ⟨hgate, hurl⟩ := Load.isFor_iff.mp (by simpa using hfor)
  exact hother ⟨Option.some.inj (h.1.symm.trans hgate), h.2.symm.trans hurl⟩

namespace World
open Load (bare narrow)
variable {gate : GateId} {url : String}

theorem lastFor_map_bare (gate : GateId) (url : String) (start : Nat) (loads : List (Load τ)) :
    lastFor gate url start (loads.map bare) = lastFor gate url start loads := by
  induction loads generalizing start with
  | nil => rfl
  | cons l rest ih =>
    simp only [List.map_cons, lastFor, ih]
    rfl

theorem lastFor_narrow (gate : GateId) (url : String) (loads : List (Load τ)) :
    lastFor gate url 0 (loads.filterMap (narrow gate url)) =
      (lastFor gate url 0 loads).bind (placeAmong (Load.isFor gate url) loads) := by
  induction loads using List.reverseRecOn with
  | nil => rfl
  | append_singleton loads last ih =>
    rw [List.filterMap_append, lastFor_append]
    by_cases hlast : last.isFor gate url = true
    · have hnarrow : [last].filterMap (narrow gate url) = [last.bare] := by simp [narrow, hlast]
      rw [hnarrow, lastFor_append, Load.isFor_bare, if_pos hlast, if_pos hlast, Nat.zero_add,
        Nat.zero_add, Option.bind_some, placeAmong_concat hlast,
        length_filterMap fun l _ => l.narrow_isSome gate url]
    · have hnarrow : [last].filterMap (narrow gate url) = [] := by simp [narrow, hlast]
      rw [hnarrow, List.append_nil, if_neg hlast, ih]
      cases hid : lastFor gate url 0 loads with
      | none => rfl
      | some id =>
        obtain ⟨l, hl, -⟩ := current?_eq_some (w := ⟨(), loads⟩) hid
        exact (placeAmong_append (List.getElem?_eq_some_iff.mp hl).1 _).symm

/-- The other record is the one narrowed to a gate and a URL, but for where its loads were
begun. -/
def Narrows (gate : GateId) (url : String) (w v : World σ τ) : Prop :=
  v.loads.map bare = w.loads.filterMap (narrow gate url)

variable {w v : World σ τ} {id k : LoadId}

theorem Narrows.progress? (h : w.Narrows gate url v)
    (hk : placeAmong (Load.isFor gate url) w.loads id = some k) :
    v.progress? k = w.progress? id := by
  have hpicked := getElem?_filterMap (fun l _ => l.narrow_isSome gate url) hk
  rw [← h, List.getElem?_map] at hpicked
  have hfor := placeAmong_isSome (Load.isFor gate url) w.loads id
  rw [hk] at hfor
  obtain ⟨l, hl, hlfor⟩ := (Option.any_eq_true _ _).mp hfor.symm
  obtain ⟨m, hm, hml⟩ : ∃ m, v.loads[k]? = some m ∧ m.bare = l.bare := by
    simpa [hl, narrow, hlfor] using hpicked
  have hprogress : m.bare.progress = l.bare.progress := by rw [hml]
  change m.progress = l.progress at hprogress
  rw [World.progress?, World.progress?, hm, hl, Option.map_some, Option.map_some, hprogress]

theorem Narrows.current? (h : w.Narrows gate url v) :
    v.current? gate url =
      (w.current? gate url).bind (placeAmong (Load.isFor gate url) w.loads) := by
  rw [World.current?, ← lastFor_map_bare, h, lastFor_narrow]
  rfl

/-- How the last load has come along, which is all that a gate goes by. -/
theorem Narrows.known (h : w.Narrows gate url v) :
    (v.current? gate url).bind v.progress? = (w.current? gate url).bind w.progress? := by
  rw [h.current?]
  cases hid : w.current? gate url with
  | none => rfl
  | some id =>
    obtain ⟨l, hl, hfor, -⟩ := current?_eq_some hid
    have hk : (placeAmong (Load.isFor gate url) w.loads id).isSome = true := by
      rw [placeAmong_isSome, hl, Option.any_some, hfor]
    obtain ⟨k, hk⟩ := Option.isSome_iff_exists.mp hk
    rw [Option.bind_some, hk, Option.bind_some, h.progress? hk, Option.bind_some]

theorem Narrows.isDue (h : w.Narrows gate url v) : v.isDue gate url = w.isDue gate url := by
  rw [World.isDue, h.known, ← World.isDue]

theorem Narrows.isLoaded (h : w.Narrows gate url v) :
    Gate.isLoaded v gate url = Gate.isLoaded w gate url := by
  rw [Gate.isLoaded, h.known, ← Gate.isLoaded]

theorem Narrows.length (h : w.Narrows gate url v) :
    v.loads.length = w.loads.countP (Load.isFor gate url) := by
  rw [← length_filterMap fun l _ => l.narrow_isSome gate url, ← h, List.length_map]

theorem Narrows.outcome? (h : w.Narrows gate url v)
    (hk : placeAmong (Load.isFor gate url) w.loads id = some k) :
    (v.loads[k]?).bind Load.outcome? = (w.loads[id]?).bind Load.outcome? := by
  have hoption (loads : List (Load τ)) (i : Nat) : (loads[i]?).bind Load.outcome? =
      (loads[i]?.map Load.progress).bind Progress.outcome? := by
    cases loads[i]? <;> rfl
  rw [hoption, hoption]
  exact congrArg (·.bind Progress.outcome?) (h.progress? hk)

variable {w' v' : World σ τ} {l m : Load τ}

theorem Narrows.add (h : w.Narrows gate url v) (hw : w'.loads = w.loads ++ [l])
    (hv : v'.loads = v.loads ++ [m]) (hfor : l.isFor gate url = true) (hlm : m.bare = l.bare) :
    w'.Narrows gate url v' := by
  have hnarrow : [l].filterMap (narrow gate url) = [l.bare] := by simp [narrow, hfor]
  rw [Narrows, hw, hv, List.map_append, List.filterMap_append, h, hnarrow, List.map_singleton, hlm]

theorem Narrows.add_other (h : w.Narrows gate url v) (hw : w'.loads = w.loads ++ [l])
    (hother : l.isFor gate url = false) : w'.Narrows gate url v := by
  have hnarrow : [l].filterMap (narrow gate url) = [] := by simp [narrow, hother]
  rw [Narrows, hw, List.filterMap_append, h, hnarrow, List.append_nil]

variable {f : Load τ → Load τ} {f' : Load Unit → Load Unit}

/-- Does the same to every load, wherever it was begun, and keeps its gate and URL. -/
structure Alike (f : Load τ → Load τ) (f' : Load Unit → Load Unit) : Prop where
  bare : ∀ l, (f l).bare = f' l.bare
  isFor : ∀ gate url l, (f l).isFor gate url = l.isFor gate url

theorem alike_settle (outcome : Outcome) :
    Alike (Load.settle outcome : Load τ → Load τ) (Load.settle outcome) :=
  ⟨Load.bare_settle outcome, fun gate url => Load.isFor_settle gate url outcome⟩

theorem alike_deliver : Alike (Load.deliver : Load τ → Load τ) Load.deliver :=
  ⟨Load.bare_deliver, Load.isFor_deliver⟩

theorem Alike.narrow (hf : Alike f f') (gate : GateId) (url : String) (l : Load τ) :
    (f l).narrow gate url = (l.narrow gate url).map f' := by
  cases h : l.isFor gate url <;> simp [Load.narrow, hf.isFor, hf.bare, h]

theorem Narrows.modify (h : w.Narrows gate url v) (hf : Alike f f')
    (hk : placeAmong (Load.isFor gate url) w.loads id = some k)
    (hw : w'.loads = w.loads.modify id f) (hv : v'.loads = v.loads.modify k f) :
    w'.Narrows gate url v' := by
  rw [Narrows, hw, hv, map_modify hf.bare, h,
    filterMap_modify_of_some (fun l _ => l.narrow_isSome gate url) (hf.narrow gate url) hk]

theorem Narrows.modify_other (h : w.Narrows gate url v) (hf : Alike f f')
    (hk : placeAmong (Load.isFor gate url) w.loads id = none)
    (hw : w'.loads = w.loads.modify id f) : w'.Narrows gate url v := by
  rw [Narrows, hw, h,
    filterMap_modify_of_none (fun l _ => l.narrow_isSome gate url) (hf.narrow gate url) hk]

end World

end CreationLoader
