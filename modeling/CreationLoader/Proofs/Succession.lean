import CreationLoader.Proofs.Steps

/-!
# The loads of one script succeed each other

A gate that is asked for a URL begins a load only when it has begun none, or when somebody was
told that the last has failed. So of its loads for the URL only the last may be open or have
succeeded, and after a success no other is begun.
-/

namespace CreationLoader
variable {η σ κ ν τ φ α β ι : Type}

namespace World

/-- Of the loads that a gate has begun for a URL each but the last has failed, and somebody was
told. -/
def Succession (w : World σ τ) (gate : GateId) (url : String) : Prop :=
  ∀ (i j : Nat) (l m : Load τ), i < j → w.loads[i]? = some l → w.loads[j]? = some m →
    l.isFor gate url = true → m.isFor gate url = true → l.progress.isToldFailure = true

variable {w v : World σ τ} {gate : GateId} {url : String}

/-- What nobody was told to have failed is the last. -/
theorem Succession.le (h : w.Succession gate url) {i j : Nat} {l m : Load τ}
    (hl : w.loads[i]? = some l) (hm : w.loads[j]? = some m) (hlfor : l.isFor gate url = true)
    (hmfor : m.isFor gate url = true) (htold : l.progress.isToldFailure = false) : j ≤ i := by
  by_contra hij
  rw [h i j l m (by omega) hl hm hlfor hmfor] at htold
  exact nomatch htold

theorem Succession.told_of_isDue (h : w.Succession gate url) (hdue : w.isDue gate url = true)
    {i : Nat} {l : Load τ} (hl : w.loads[i]? = some l) (hfor : l.isFor gate url = true) :
    l.progress.isToldFailure = true := by
  cases hc : w.current? gate url with
  | none =>
    rw [current?_eq_none_iff] at hc
    rw [hc l (List.mem_of_getElem? hl)] at hfor
    exact nomatch hfor
  | some id =>
    obtain ⟨m, hm, hmfor, hmax⟩ := current?_eq_some hc
    rw [isDue_of_current? hc hm] at hdue
    rcases Nat.lt_or_eq_of_le (hmax i l hl hfor) with hlt | rfl
    · exact h i id l m hlt hl hm hfor hmfor
    · obtain rfl := Option.some.inj (hl.symm.trans hm)
      exact hdue

theorem Succession.grows (h : w.Succession gate url) (hg : w.Grows v)
    (hlen : v.loads.length = w.loads.length) : v.Succession gate url := by
  intro i j l m hij hl hm hlfor hmfor
  have hj : j < w.loads.length := hlen ▸ (List.getElem?_eq_some_iff.mp hm).1
  obtain ⟨l₀, hl₀, hgl⟩ := hg.backward hl (Nat.lt_trans hij hj)
  obtain ⟨m₀, hm₀, hgm⟩ := hg.backward hm hj
  have htold := h i j l₀ m₀ hij hl₀ hm₀ (hgl.isFor gate url ▸ hlfor) (hgm.isFor gate url ▸ hmfor)
  obtain ⟨reason, hp⟩ := Progress.isToldFailure_iff.mp htold
  exact Progress.isToldFailure_iff.mpr ⟨reason, hgl.delivered _ hp⟩

theorem Succession.append (h : w.Succession gate url) {n : Load τ}
    (hv : v.loads = w.loads ++ [n])
    (hdue : n.isFor gate url = true → w.isDue gate url = true) : v.Succession gate url := by
  intro i j l m hij hl hm hlfor hmfor
  rw [hv] at hl hm
  rcases World.getElem?_concat hm with ⟨hj, hm⟩ | ⟨rfl, rfl⟩
  · rw [List.getElem?_append_left (Nat.lt_trans hij hj)] at hl
    exact h i j l m hij hl hm hlfor hmfor
  · rw [List.getElem?_append_left hij] at hl
    exact h.told_of_isDue (hdue hmfor) hl hlfor

end World

namespace Scene
variable [Host η σ κ ν τ]

theorem Change.succession {s : Scene η σ τ φ α} {x : Step η σ φ α} {w : World σ τ}
    {gate : GateId} {url : String} (hx : s.Change x w.loads)
    (h : s.world.Succession gate url) : w.Succession gate url := by
  have hg := hx.grows
  generalize hw : w.loads = loads at hx
  cases hx with
  | begun _ hdue =>
    refine h.append hw fun hfor => ?_
    obtain ⟨rfl, rfl⟩ := Gate.begun_isFor_iff.mp hfor
    exact hdue
  | kept => exact h.grows hg (by rw [hw])
  | settled => exact h.grows hg (by rw [hw, List.length_modify])
  | told => exact h.grows hg (by rw [hw, List.length_modify])

variable [Factory φ σ κ ν α β ι]

theorem Reachable.succession {s : Scene η σ τ φ α} (h : s.Reachable) (gate : GateId)
    (url : String) : s.world.Succession gate url := by
  refine h.induction (P := fun s => s.world.Succession gate url) ?_ ?_
  · simp [World.Succession, initial]
  · intro s x ih
    exact (step_change x s).succession ih

/-- Among the steps is a poll that told with what reason a load for a URL has failed. -/
def Told (s : Scene η σ τ φ α) (steps : List (Step η σ φ α)) (id : LoadId) (url reason : String) :
    Prop :=
  ∃ before place rest name f, steps = before ++ .poll place :: rest ∧
    (s.after before).futures[place]? = some (name, f) ∧ f.load? = some id ∧
    (step (.poll place) (s.after before)).value = .polled (.failed (.polyfillFailed url reason))

theorem told_of_delivered {hosts : σ} {steps : List (Step η σ φ α)} {id : LoadId} {l : Load τ}
    {reason : String}
    (hl : ((initial hosts : Scene η σ τ φ α).after steps).world.loads[id]? = some l)
    (hp : l.progress = .delivered (.failed reason)) :
    (initial hosts : Scene η σ τ φ α).Told steps id l.url reason := by
  obtain ⟨before, place, rest, name, f, m, rfl, hf, hid, hm, hsettled⟩ :=
    delivered_at (by simp [initial]) hl hp
  have ho := Load.outcome?_of_settled hsettled
  refine ⟨before, place, rest, name, f, rfl, hf, hid, ?_⟩
  have hurl : l.url = f.url := by
    obtain ⟨n, hn, hu⟩ := ((reachable_initial hosts).after before).bound _
      (List.mem_of_getElem? hf) id hid
    rw [after_append] at hl
    obtain ⟨l', hl', hg⟩ := after_grows (.poll place :: rest) _ id n hn
    obtain rfl := Option.some.inj (hl.symm.trans hl')
    exact hg.url.trans hu
  rw [step_poll_of_future hf, Future.poll_of_failed hid (by simpa [hm] using ho), hurl]

/-- Whatever is done over some hosts and in whatever order, the loads that a gate begins for a
URL succeed each other. When one is begun, every earlier one has failed and a poll has told it;
so no two are open at one time, and a load that has succeeded stays the last. -/
theorem begins_after_told_failures (hosts : σ) (steps : List (Step η σ φ α)) (gate : GateId)
    (url : String) :
    let start : Scene η σ τ φ α := initial hosts
    let loads := (start.after steps).world.loads
    (∀ (i j : Nat) (l m : Load τ), i < j → loads[i]? = some l → loads[j]? = some m →
      l.isFor gate url = true → m.isFor gate url = true →
      ∃ reason before x rest, steps = before ++ x :: rest ∧
        (start.after before).Begins x j gate url ∧ start.Told before i url reason ∧
        l.progress = .delivered (.failed reason)) ∧
    (∀ (i j : Nat) (l m : Load τ), loads[i]? = some l → loads[j]? = some m →
      l.isFor gate url = true → m.isFor gate url = true →
      l.isOpen = true → m.isOpen = true → i = j) ∧
    (∀ (i : Nat) (l : Load τ), loads[i]? = some l → l.isFor gate url = true →
      l.outcome? = some .loaded → ∀ (more : List (Step η σ φ α)) (j : Nat) (m : Load τ),
      ((start.after steps).after more).world.loads[j]? = some m → m.isFor gate url = true →
      j ≤ i) := by
  intro start loads
  refine ⟨?_, ?_, ?_⟩
  · intro i j l m hij hl hm hlfor hmfor
    obtain ⟨before, x, rest, hsteps, hbegins⟩ := begun_at (Nat.zero_le j) hm hmfor
    have hgrows : (start.after before).world.Grows (start.after steps).world := by
      rw [hsteps, after_append]
      exact after_grows _ _
    obtain ⟨l', hl', hg⟩ := hgrows.backward hl (hbegins.1 ▸ hij)
    rw [hg.isFor] at hlfor
    have hs := ((reachable_initial hosts).after before).succession gate url
    obtain ⟨reason, hp⟩ := Progress.isToldFailure_iff.mp
      (hs.told_of_isDue hbegins.2.1 hl' hlfor)
    have htold := told_of_delivered hl' hp
    rw [(Load.isFor_iff.mp hlfor).2] at htold
    exact ⟨reason, before, x, rest, hsteps, hbegins, htold, hg.delivered _ hp⟩
  · intro i j l m hl hm hlfor hmfor hlopen hmopen
    have hs := ((reachable_initial hosts).after steps).succession gate url
    have hnot {n : Load τ} (h : n.isOpen = true) : n.progress.isToldFailure = false :=
      Load.isToldFailure_eq_false fun reason => by simp [Load.isOpen_iff.mp h]
    exact Nat.le_antisymm (hs.le hm hl hmfor hlfor (hnot hmopen))
      (hs.le hl hm hlfor hmfor (hnot hlopen))
  · intro i l hl hfor ho more j m hm hmfor
    have hs := (((reachable_initial hosts).after steps).after more).succession gate url
    obtain ⟨n, hn, hg⟩ := after_grows more _ i l hl
    refine hs.le hn hm (hg.isFor gate url ▸ hfor) hmfor ?_
    exact Load.isToldFailure_eq_false fun reason => by simp [hg.outcome _ ho]

end Scene

end CreationLoader
