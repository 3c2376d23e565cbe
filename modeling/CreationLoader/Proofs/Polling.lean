import CreationLoader.Proofs.Instances

/-!
# One equation for a poll

A poll finds out how the load has ended that is waited for, and notes on the record that this
was told. What it does then hangs on the outcome and the hosts, and on the record no more.
-/

namespace CreationLoader
variable {η σ κ ν τ φ α β ι : Type}

@[simp] theorem Load.outcome?_deliver (l : Load τ) : l.deliver.outcome? = l.outcome? := by
  cases h : l.progress <;> simp [deliver, outcome?, Progress.outcome?, h]

@[simp] theorem Load.news_deliver (l : Load τ) : l.deliver.news = [] := by
  cases h : l.progress <;> simp [deliver, news, h]

theorem Load.news_cases (l : Load τ) :
    l.news = [] ∨ ∃ reason, l.progress = .settled (.failed reason) ∧
      l.news = [.loadFailed l.url reason] := by
  rcases hg : l.gate with _ | _ <;> rcases hp : l.progress with _ | (_ | reason) | _ <;>
    simp [news, hg, hp]

namespace Future
variable {f g : Future η φ α} {loads : List (Load τ)}

/-- The outcome that what waits goes by. Where no load is waited for, there is none to fail. -/
def outcome? (f : Future η φ α) (loads : List (Load τ)) : Option Outcome :=
  f.load?.elim (some .loaded) fun id => (loads[id]?).bind Load.outcome?

/-- Notes on the record that the outcome was told. -/
def tell (f : Future η φ α) (loads : List (Load τ)) : List (Load τ) :=
  f.load?.elim loads fun id => loads.modify id Load.deliver

def news (f : Future η φ α) (loads : List (Load τ)) : List Event :=
  f.load?.elim [] fun id => (loads[id]?).elim [] Load.news

theorem news_cases (f : Future η φ α) (loads : List (Load τ)) :
    f.news loads = [] ∨ ∃ id l reason, f.load? = some id ∧ loads[id]? = some l ∧
      l.progress = .settled (.failed reason) ∧ f.news loads = [.loadFailed l.url reason] := by
  cases hf : f.load? with
  | none => exact .inl (by simp [news, hf])
  | some id =>
    cases hl : loads[id]? with
    | none => exact .inl (by simp [news, hf, hl])
    | some l =>
      have hnews : f.news loads = l.news := by simp [news, hf, hl]
      rw [hnews]
      rcases l.news_cases with h | ⟨reason, hp, h⟩
      · exact .inl h
      · exact .inr ⟨id, l, reason, rfl, hl, hp, h⟩

section
variable [Host η σ κ ν τ] [Factory φ σ κ ν α β ι]

/-- What a poll does when it has found out the outcome. -/
def proceed (f : Future η φ α) : Option Outcome → Action σ κ (Polled ι)
  | none => pure .pending
  | some (.failed reason) => pure (.failed (.polyfillFailed f.url reason))
  | some .loaded => f.come

theorem poll_eq (f : Future η φ α) (w : World σ τ) :
    f.poll w =
      let next := f.proceed (f.outcome? w.loads) w.hosts
      { value := next.value
        state := { hosts := next.state, loads := f.tell w.loads }
        calls := next.calls
        events := f.news w.loads ++ next.events } := by
  cases hf : f.load? with
  | none => simp [poll_of_native hf, outcome?, tell, news, proceed, hf]
  | some id =>
    rcases ho : (w.loads[id]?).bind Load.outcome? with _ | _ | reason
    · have htell : w.loads.modify id Load.deliver = w.loads :=
        World.modify_eq_self fun l hw => Load.deliver_of_isOpen (by simpa [hw] using ho)
      simp [poll_of_isOpen hf ho, outcome?, tell, news, proceed, hf, ho, htell,
        Load.news_of_isOpen ho]
    · simp [poll_of_loaded hf ho, outcome?, tell, news, proceed, hf, ho]
    · simp [poll_of_failed hf ho, outcome?, tell, news, proceed, hf, ho]

theorem poll_tells (f : Future η φ α) (w : World σ τ) :
    (f.poll w).state.loads = f.tell w.loads := by rw [poll_eq]

theorem poll_hosts (f : Future η φ α) (w : World σ τ) :
    (f.poll w).state.hosts = (f.proceed (f.outcome? w.loads) w.hosts).state := by rw [poll_eq]

theorem poll_gives (f : Future η φ α) (w : World σ τ) :
    (f.poll w).value = (f.proceed (f.outcome? w.loads) w.hosts).value := by rw [poll_eq]

theorem poll_calls (f : Future η φ α) (w : World σ τ) :
    (f.poll w).calls = (f.proceed (f.outcome? w.loads) w.hosts).calls := by rw [poll_eq]

theorem poll_events (f : Future η φ α) (w : World σ τ) :
    (f.poll w).events =
      f.news w.loads ++ (f.proceed (f.outcome? w.loads) w.hosts).events := by rw [poll_eq]

theorem proceed_of_covers {P : ∀ {ρ : Type}, Action σ κ ρ → Prop} (h : Covers η φ P)
    (f : Future η φ α) (o : Option Outcome) : P (f.proceed o) := by
  rcases o with _ | _ | reason
  · exact h.pure _
  · exact h.come f
  · exact h.pure _

theorem proceed_value (f : Future η φ α) (o : Option Outcome) (hosts : σ) :
    (f.proceed o hosts).value = f.answer hosts o := by
  rcases o with _ | _ | _ <;> rfl

end

@[simp] theorem outcome?_tell (f g : Future η φ α) (loads : List (Load τ)) :
    g.outcome? (f.tell loads) = g.outcome? loads := by
  cases hf : f.load? with
  | none => simp [tell, hf]
  | some id =>
    cases hg : g.load? with
    | none => simp [outcome?, hg]
    | some id' =>
      simp only [outcome?, tell, hf, hg, Option.elim_some, List.getElem?_modify]
      cases loads[id']? with
      | none => rfl
      | some l => by_cases h : id = id' <;> simp [h]

theorem tell_comm (f g : Future η φ α) (loads : List (Load τ)) :
    g.tell (f.tell loads) = f.tell (g.tell loads) := by
  cases hf : f.load? with
  | none => simp [tell, hf]
  | some id =>
    cases hg : g.load? with
    | none => simp [tell, hg]
    | some id' =>
      simp only [tell, hf, hg, Option.elim_some]
      by_cases h : id = id'
      · rw [h]
      · exact List.modify_modify_ne _ _ _ h

theorem news_congr (h : f.load? = g.load?) : f.news loads = g.news loads := by
  simp only [news, h]

theorem news_tell_of_ne (h : f.load? ≠ g.load?) : g.news (f.tell loads) = g.news loads := by
  cases hf : f.load? with
  | none => simp [tell, hf]
  | some id =>
    cases hg : g.load? with
    | none => simp [news, hg]
    | some id' =>
      have hid : id ≠ id' := fun hid => h (by rw [hf, hg, hid])
      simp only [news, tell, hf, hg, Option.elim_some, List.getElem?_modify_ne _ _ hid]

theorem news_tell_self (h : f.load? = g.load?) : g.news (f.tell loads) = [] := by
  cases hg : g.load? with
  | none => simp [news, hg]
  | some id =>
    simp only [news, tell, h, hg, Option.elim_some, List.getElem?_modify]
    cases loads[id]? <;> simp

end Future

end CreationLoader
