import CreationLoader.Proofs.Steps

/-!
# Following what is being waited for

What is being waited for stands in a list, and moves down when something before it has come or
was given up. Here it is followed from step to step, so that statements can tell apart two that
look alike.
-/

namespace CreationLoader
variable {η σ κ ν τ φ α β ι : Type}

/-- Where an element of a list is found when one of the list has been taken out. -/
def placeWithout (gone place : Nat) : Option Nat :=
  if place = gone then none else some (if gone < place then place - 1 else place)

@[simp] theorem placeWithout_self (gone : Nat) : placeWithout gone gone = none := by
  simp [placeWithout]

theorem placeWithout_of_ne {gone place : Nat} (h : place ≠ gone) :
    placeWithout gone place = some (if gone < place then place - 1 else place) := by
  simp [placeWithout, h]

theorem getElem?_eraseIdx_of_placeWithout {l : List α} {gone place k : Nat}
    (h : placeWithout gone place = some k) : (l.eraseIdx gone)[k]? = l[place]? := by
  unfold placeWithout at h
  split_ifs at h with hself hlt
  · obtain rfl := Option.some.inj h
    have hplace : place - 1 + 1 = place := by omega
    rw [List.getElem?_eraseIdx_of_ge (by omega), hplace]
  · obtain rfl := Option.some.inj h
    exact List.getElem?_eraseIdx_of_lt (by omega)

namespace Scene
variable [Host η σ κ ν τ] [Factory φ σ κ ν α β ι]

/-- Where what is waited for at a place is found after a step: nowhere, if it has come or was
given up. -/
def placeAfter (s : Scene η σ τ φ α) : Step η σ φ α → Nat → Option Nat
  | .poll gone, place =>
    if (poll gone s).value.all Polled.isPending then some place else placeWithout gone place
  | .drop gone, place => placeWithout gone place
  | _, place => some place

/-- Either a step adds to what is being waited for, or it takes one out. -/
theorem futures_after_step (x : Step η σ φ α) (s : Scene η σ τ φ α) :
    (∃ more, (step x s).state.futures = s.futures ++ more ∧
      ∀ place, s.placeAfter x place = some place) ∨
    ∃ gone, (step x s).state.futures = s.futures.eraseIdx gone ∧
      ∀ place, s.placeAfter x place = placeWithout gone place := by
  cases x with
  | poll gone =>
    rw [step_poll_state]
    cases hf : s.futures[gone]? with
    | none => exact .inl ⟨[], by simp [poll_of_absent hf], by simp [placeAfter, poll_of_absent hf]⟩
    | some e =>
      obtain ⟨name, f⟩ := e
      have hpoll := poll_of_future hf
      by_cases hp : (f.poll s.world).value.isPending = true
      · exact .inl ⟨[], by simp [hpoll, hp], by simp [placeAfter, hpoll, hp]⟩
      · exact .inr ⟨gone, by simp [hpoll, hp], by simp [placeAfter, hpoll, hp]⟩
  | drop gone => exact .inr ⟨gone, rfl, fun _ => rfl⟩
  | init handle selector overrides name =>
    obtain ⟨world, more, hs⟩ := init_state_frame handle selector overrides name s
    rw [step_init_state, hs]
    exact .inl ⟨more, rfl, fun _ => rfl⟩
  | ready gate host url name =>
    rw [step_ready_state, ready_state]
    exact .inl ⟨_, rfl, fun _ => rfl⟩
  | construct loader id name =>
    exact .inl ⟨[], by simp [(step_construct_state loader id name s).2], fun _ => rfl⟩
  | clone handle name =>
    exact .inl ⟨[], by simp [(step_clone_state handle name s).2], fun _ => rfl⟩
  | hosts change => exact .inl ⟨[], (List.append_nil _).symm, fun _ => rfl⟩
  | loader name registry config host gate =>
    exact .inl ⟨[], (List.append_nil _).symm, fun _ => rfl⟩
  | dropLoader name => exact .inl ⟨[], (List.append_nil _).symm, fun _ => rfl⟩
  | isLoaded gate url => exact .inl ⟨[], (List.append_nil _).symm, fun _ => rfl⟩
  | settle id outcome => exact .inl ⟨[], (List.append_nil _).symm, fun _ => rfl⟩

theorem futures_placeAfter {s : Scene η σ τ φ α} {x : Step η σ φ α} {place k : Nat}
    {e : String × Future η φ α} (hk : s.placeAfter x place = some k)
    (he : s.futures[place]? = some e) : (step x s).state.futures[k]? = some e := by
  rcases futures_after_step x s with ⟨more, hf, hplace⟩ | ⟨gone, hf, hplace⟩
  · rw [hplace] at hk
    obtain rfl := Option.some.inj hk
    have hlt : place < s.futures.length := (List.getElem?_eq_some_iff.mp he).1
    rw [hf, List.getElem?_append_left hlt, he]
  · rw [hplace] at hk
    rw [hf, getElem?_eraseIdx_of_placeWithout hk, he]

/-- Where what is waited for at a place is found after a run. -/
def placeAfterRun : List (Step η σ φ α) → Scene η σ τ φ α → Nat → Option Nat
  | [], _, place => some place
  | x :: rest, s, place => (s.placeAfter x place).bind (placeAfterRun rest (step x s).state)

theorem futures_placeAfterRun {steps : List (Step η σ φ α)} {s : Scene η σ τ φ α} {place k : Nat}
    {e : String × Future η φ α} (hk : placeAfterRun steps s place = some k)
    (he : s.futures[place]? = some e) : (s.after steps).futures[k]? = some e := by
  induction steps generalizing s place with
  | nil =>
    obtain rfl := Option.some.inj hk
    exact he
  | cons x rest ih =>
    obtain ⟨next, hnext, hrest⟩ := Option.bind_eq_some_iff.mp hk
    rw [after_cons]
    exact ih hrest (futures_placeAfter hnext he)

end Scene

end CreationLoader
