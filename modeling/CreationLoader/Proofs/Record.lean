import CreationLoader.Scene
import Mathlib.Data.List.Induction
import Mathlib.Tactic.ByContra
import Mathlib.Tactic.SplitIfs

/-!
# The record of loads over time

A step can begin a load at the end of the record, and only when the gate has none for the URL
or has one whose failure somebody was told. Otherwise it settles one load, delivers one, or
leaves the record as it is. So a load keeps its place, its gate and its URL, and the outcome it
has got is its outcome for ever.
-/

namespace CreationLoader
variable {η σ κ ν τ φ α β ι : Type}

/-- The outcome, once the host has settled the load. -/
def Progress.outcome? : Progress → Option Outcome
  | pending => none
  | settled outcome | delivered outcome => some outcome

def Progress.isToldFailure : Progress → Bool
  | delivered (.failed _) => true
  | _ => false

theorem Progress.isToldFailure_iff {p : Progress} :
    p.isToldFailure = true ↔ ∃ reason, p = .delivered (.failed reason) := by
  unfold isToldFailure
  split <;> simp_all

namespace Load

def outcome? (l : Load τ) : Option Outcome := l.progress.outcome?

/-- A load and the same load at a later time. -/
structure Grows (l m : Load τ) : Prop where
  gate : m.gate = l.gate
  url : m.url = l.url
  source : m.source = l.source
  outcome : ∀ o, l.outcome? = some o → m.outcome? = some o
  delivered : ∀ o, l.progress = .delivered o → m.progress = .delivered o

theorem Grows.refl (l : Load τ) : l.Grows l := ⟨rfl, rfl, rfl, fun _ h => h, fun _ h => h⟩

theorem Grows.trans {l m n : Load τ} (h : l.Grows m) (k : m.Grows n) : l.Grows n :=
  ⟨k.gate.trans h.gate, k.url.trans h.url, k.source.trans h.source,
    fun o ho => k.outcome o (h.outcome o ho), fun o ho => k.delivered o (h.delivered o ho)⟩

theorem Grows.isFor {l m : Load τ} (h : l.Grows m) (gate : GateId) (url : String) :
    m.isFor gate url = l.isFor gate url := by
  simp only [Load.isFor, h.gate, h.url]

theorem isFor_iff {l : Load τ} {gate : GateId} {url : String} :
    l.isFor gate url = true ↔ l.gate = some gate ∧ l.url = url := by
  simp [isFor]

theorem isOpen_eq (l : Load τ) : l.isOpen = l.outcome?.isNone := by
  cases h : l.progress <;> simp [isOpen, outcome?, Progress.outcome?, h]

theorem isOpen_iff {l : Load τ} : l.isOpen = true ↔ l.outcome? = none := by
  rw [isOpen_eq, Option.isNone_iff_eq_none]

theorem outcome?_of_settled {l : Load τ} {o : Outcome} (h : l.progress = .settled o) :
    l.outcome? = some o := by
  simp [outcome?, h, Progress.outcome?]

theorem outcome?_of_delivered {l : Load τ} {o : Outcome} (h : l.progress = .delivered o) :
    l.outcome? = some o := by
  simp [outcome?, h, Progress.outcome?]

theorem isToldFailure_eq_false {l : Load τ} (h : ∀ reason, l.outcome? ≠ some (.failed reason)) :
    l.progress.isToldFailure = false := by
  by_contra hp
  obtain ⟨reason, hp⟩ := Progress.isToldFailure_iff.mp (by simpa using hp)
  exact h reason (outcome?_of_delivered hp)

theorem grows_settle (outcome : Outcome) (l : Load τ) : l.Grows (l.settle outcome) := by
  by_cases h : l.isOpen = true
  · have hp : l.progress = .pending := by simpa [isOpen] using h
    simp only [settle, h, if_true]
    exact ⟨rfl, rfl, rfl, by simp [outcome?, Progress.outcome?, hp], by simp [hp]⟩
  · rw [settle_of_not_isOpen (by simpa using h)]
    exact .refl l

theorem grows_deliver (l : Load τ) : l.Grows l.deliver := by
  unfold deliver
  split
  next o h =>
    exact ⟨rfl, rfl, rfl, by simp [outcome?, Progress.outcome?, h], by simp [h]⟩
  next => exact .refl l

theorem outcome?_settle (outcome : Outcome) (l : Load τ) :
    (l.settle outcome).outcome? = l.outcome?.or (some outcome) := by
  cases hp : l.progress <;> simp [settle, isOpen, outcome?, Progress.outcome?, hp]

theorem deliver_progress {l : Load τ} {o : Outcome} (h : l.outcome? = some o) :
    l.deliver.progress = .delivered o := by
  cases hp : l.progress <;> simp_all [deliver, outcome?, Progress.outcome?]

theorem settled_or_delivered_of_deliver {l : Load τ} {o : Outcome}
    (h : l.deliver.progress = .delivered o) :
    l.progress = .settled o ∨ l.progress = .delivered o := by
  cases hp : l.progress <;> simp_all [deliver]

theorem deliver_of_isOpen {l : Load τ} (h : l.outcome? = none) : l.deliver = l := by
  cases hp : l.progress <;> simp_all [deliver, outcome?, Progress.outcome?]

theorem delivered_of_settle {l : Load τ} {o o' : Outcome}
    (h : (l.settle o).progress = .delivered o') : l.progress = .delivered o' := by
  unfold settle at h
  split at h
  · simp at h
  · exact h

end Load

namespace World

/-- A world and a later one: every load is still at its place. -/
def Grows (w v : World σ τ) : Prop :=
  ∀ (id : LoadId) (l : Load τ), w.loads[id]? = some l → ∃ m, v.loads[id]? = some m ∧ l.Grows m

theorem Grows.of_eq {w v : World σ τ} (h : v.loads = w.loads) : w.Grows v := by
  intro id l hl
  exact ⟨l, h ▸ hl, .refl l⟩

theorem Grows.trans {u v w : World σ τ} (h : u.Grows v) (k : v.Grows w) : u.Grows w := by
  intro id l hl
  obtain ⟨m, hm, hlm⟩ := h id l hl
  obtain ⟨n, hn, hmn⟩ := k id m hm
  exact ⟨n, hn, hlm.trans hmn⟩

/-- What is on record later on was so already, or has been begun since. -/
theorem Grows.backward {w v : World σ τ} (h : w.Grows v) {id : Nat} {m : Load τ}
    (hm : v.loads[id]? = some m) (hid : id < w.loads.length) :
    ∃ l, w.loads[id]? = some l ∧ l.Grows m := by
  have hl := List.getElem?_eq_getElem hid
  obtain ⟨n, hn, hgrows⟩ := h id _ hl
  obtain rfl := Option.some.inj (hm.symm.trans hn)
  exact ⟨_, hl, hgrows⟩

theorem Grows.append {w v : World σ τ} {l : Load τ} (h : v.loads = w.loads ++ [l]) :
    w.Grows v := by
  intro id m hm
  have hid : id < w.loads.length := (List.getElem?_eq_some_iff.mp hm).1
  exact ⟨m, by rw [h, List.getElem?_append_left hid, hm], .refl m⟩

theorem getElem?_concat {loads : List (Load τ)} {last m : Load τ} {i : Nat}
    (h : (loads ++ [last])[i]? = some m) :
    (i < loads.length ∧ loads[i]? = some m) ∨ (i = loads.length ∧ m = last) := by
  rcases Nat.lt_or_ge i loads.length with hi | hi
  · exact .inl ⟨hi, by rwa [List.getElem?_append_left hi] at h⟩
  · have hlen := (List.getElem?_eq_some_iff.mp h).1
    simp only [List.length_append, List.length_singleton] at hlen
    obtain rfl : i = loads.length := by omega
    rw [List.getElem?_concat_length] at h
    exact .inr ⟨rfl, (Option.some.inj h).symm⟩

theorem getElem?_modify {loads : List (Load τ)} {f : Load τ → Load τ} {id i : LoadId} {m : Load τ}
    (h : (loads.modify id f)[i]? = some m) :
    ∃ l, loads[i]? = some l ∧ m = if id = i then f l else l := by
  rw [List.getElem?_modify] at h
  cases hl : loads[i]? with
  | none => simp [hl] at h
  | some l =>
    refine ⟨l, rfl, ?_⟩
    split_ifs with hi <;> simp_all

theorem Grows.modify {w v : World σ τ} {id : LoadId} {f : Load τ → Load τ}
    (h : v.loads = w.loads.modify id f) (hf : ∀ l : Load τ, l.Grows (f l)) : w.Grows v := by
  intro i l hl
  rw [h, List.getElem?_modify, hl]
  by_cases hi : id = i
  · exact ⟨f l, by simp [hi], hf l⟩
  · exact ⟨l, by simp [hi], .refl l⟩

/-- The load that a gate keeps for a URL is the last of the record that is for it. -/
theorem current?_eq_some {w : World σ τ} {gate : GateId} {url : String} {id : Nat}
    (h : w.current? gate url = some id) :
    ∃ l, w.loads[id]? = some l ∧ l.isFor gate url = true ∧
      ∀ (i : Nat) (m : Load τ), w.loads[i]? = some m → m.isFor gate url = true → i ≤ id := by
  obtain ⟨hosts, loads⟩ := w
  simp only [current?] at h
  -- The last load decides, so the induction takes loads off the end.
  induction loads using List.reverseRecOn with
  | nil => simp [lastFor] at h
  | append_singleton loads last ih =>
    rw [lastFor_append, Nat.zero_add] at h
    by_cases hlast : last.isFor gate url = true
    · simp only [hlast, if_true, Option.some.injEq] at h
      subst h
      refine ⟨last, List.getElem?_concat_length, hlast, fun i m hm _ => ?_⟩
      rcases getElem?_concat hm with ⟨hi, -⟩ | ⟨rfl, -⟩
      · exact Nat.le_of_lt hi
      · exact Nat.le_refl _
    · simp only [hlast, Bool.false_eq_true, if_false] at h
      obtain ⟨l, hl, hfor, hmax⟩ := ih h
      have hid : id < loads.length := (List.getElem?_eq_some_iff.mp hl).1
      refine ⟨l, by simpa only [List.getElem?_append_left hid] using hl, hfor, ?_⟩
      intro i m hm hmfor
      rcases getElem?_concat hm with ⟨-, hm⟩ | ⟨-, rfl⟩
      · exact hmax i m hm hmfor
      · exact absurd hmfor hlast

theorem current?_eq_none_iff {w : World σ τ} {gate : GateId} {url : String} :
    w.current? gate url = none ↔ ∀ l ∈ w.loads, l.isFor gate url = false :=
  lastFor_eq_none_iff gate url 0 w.loads

/-- Whether a gate begins a load for a URL when it is next asked: it has begun none, or
somebody was told that the last has failed. -/
def isDue (w : World σ τ) (gate : GateId) (url : String) : Bool :=
  ((w.current? gate url).bind w.progress?).all Progress.isToldFailure

/-- What a gate keeps, and whether it is due, hangs on the record alone. -/
theorem current?_congr {w v : World σ τ} (h : v.loads = w.loads) (gate : GateId) (url : String) :
    v.current? gate url = w.current? gate url := by
  simp only [current?, h]

theorem isDue_congr {w v : World σ τ} (h : v.loads = w.loads) (gate : GateId) (url : String) :
    v.isDue gate url = w.isDue gate url := by
  have hp : v.progress? = w.progress? := by
    funext id
    simp only [progress?, h]
  simp only [isDue, current?_congr h, hp]

theorem isDue_of_current? {w : World σ τ} {gate : GateId} {url : String} {id : LoadId}
    {l : Load τ} (h : w.current? gate url = some id) (hl : w.loads[id]? = some l) :
    w.isDue gate url = l.progress.isToldFailure := by
  simp [isDue, h, progress?, hl]

end World

end CreationLoader
