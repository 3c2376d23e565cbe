import CreationLoader.Proofs.Registrations
import CreationLoader.Proofs.Steps

/-!
# Where loaders and handles come from

Loaders are made by steps of a run, and handles are constructed on loaders that were made before.
A clone is what was constructed. So whatever is found under a name has what it was made with, and
a handle has the entry that its loader's registry has for its id.
-/

namespace CreationLoader
variable {η σ κ ν τ φ α β ι : Type}

namespace Scene
variable [Host η σ κ ν τ] [Factory φ σ κ ν α β ι]

/-- The loader is what one of the steps makes under the name. -/
def Made (steps : List (Step η σ φ α)) (name : String) (l : Loader η φ α) : Prop :=
  ∃ before gate rest, steps = before ++ .loader name l.registry l.config l.host gate :: rest

/-- The handle is what one of the steps constructs, on a loader that a step before it makes. It
has the entry that was first registered under its id in the loader's registry. -/
def Constructed (start : Scene η σ τ φ α) (steps : List (Step η σ φ α)) (h : Handle η φ α) : Prop :=
  ∃ before loader name rest l, steps = before ++ .construct loader h.id name :: rest ∧
    (start.after before).loaders.lookup loader = some l ∧ Made before loader l ∧
    (step (.construct loader h.id name) (start.after before)).value = .handle h ∧
    ∀ registrations, l.registry = .ofRegistrations registrations →
      registrations.lookup h.id = some h.entry

variable {start : Scene η σ τ φ α} {steps : List (Step η σ φ α)}

theorem Made.append {name : String} {l : Loader η φ α} (h : Made steps name l)
    (more : List (Step η σ φ α)) : Made (steps ++ more) name l := by
  obtain ⟨before, gate, rest, rfl⟩ := h
  exact ⟨before, gate, rest ++ more, by simp⟩

theorem Constructed.append {h : Handle η φ α} (hc : start.Constructed steps h)
    (more : List (Step η σ φ α)) : start.Constructed (steps ++ more) h := by
  obtain ⟨before, loader, name, rest, l, rfl, hrest⟩ := hc
  exact ⟨before, loader, name, rest ++ more, l, by simp, hrest⟩

theorem construct_answers_handle {loader id name : String} {s : Scene η σ τ φ α}
    {h : Handle η φ α} (hv : (step (.construct loader id name) s).value = .handle h) :
    ∃ l, s.loaders.lookup loader = some l ∧
      (l.construct id s.world.hosts).value = .ok h := by
  cases hl : s.loaders.lookup loader with
  | none =>
    rw [step_construct_of_absent id name hl] at hv
    exact nomatch hv
  | some l =>
    rcases hc : (l.construct id s.world.hosts).value with e | made
    · rw [step_construct_of_error name hl hc] at hv
      exact nomatch hv
    · rw [step_construct_of_ok name hl hc] at hv
      obtain rfl := Answer.handle.inj hv
      exact ⟨l, rfl, hc⟩

theorem construct_handle {loader id name : String} {s : Scene η σ τ φ α} {h : Handle η φ α}
    (hv : (step (.construct loader id name) s).value = .handle h) :
    ∃ l, s.loaders.lookup loader = some l ∧ h.id = id ∧
      l.registry.get? id = some h.entry := by
  obtain ⟨l, hl, hc⟩ := construct_answers_handle hv
  obtain ⟨hid, hentry, -⟩ := Loader.construct_ok hc
  exact ⟨l, hl, hid, hentry⟩

/-- What is added to the handles is what was constructed, or has been there. -/
theorem step_handles (x : Step η σ φ α) (s : Scene η σ τ φ α) :
    ∀ e ∈ (step x s).state.handles, e ∈ s.handles ∨ (∃ name, (name, e.2) ∈ s.handles) ∨
      ∃ loader id name, x = .construct loader id name ∧ (step x s).value = .handle e.2 := by
  intro e he
  cases x with
  | construct loader id name =>
    cases hl : s.loaders.lookup loader with
    | none =>
      rw [step_construct_of_absent id name hl] at he
      exact .inl he
    | some l =>
      rcases hc : (l.construct id s.world.hosts).value with _ | h
      · rw [step_construct_of_error name hl hc] at he
        exact .inl he
      · have hstep := step_construct_of_ok name hl hc
        rw [hstep] at he
        rcases List.mem_cons.mp he with rfl | he
        · exact .inr (.inr ⟨loader, id, name, rfl, by rw [hstep]⟩)
        · exact .inl he
  | clone handle name =>
    cases hh : s.handles.lookup handle with
    | none => exact .inl (by simpa [step, clone, hh] using he)
    | some h =>
      have hmem : e = (name, h) ∨ e ∈ s.handles := by
        simpa [step, clone, setHandle, hh] using he
      rcases hmem with rfl | hmem
      · exact .inr (.inl ⟨handle, Association.mem_of_lookup hh⟩)
      · exact .inl hmem
  | init handle selector overrides name =>
    obtain ⟨world, more, hs⟩ := init_state_frame handle selector overrides name s
    rw [step_init_state, hs] at he
    exact .inl he
  | poll place =>
    obtain ⟨world, futures, hs⟩ := poll_state_frame place s
    rw [step_poll_state, hs] at he
    exact .inl he
  | _ => exact .inl he

theorem step_loaders (x : Step η σ φ α) (s : Scene η σ τ φ α) :
    ∀ e ∈ (step x s).state.loaders, e ∈ s.loaders ∨
      ∃ gate, x = .loader e.1 e.2.registry e.2.config e.2.host gate := by
  intro e he
  cases x with
  | loader name registry config host gate =>
    rcases List.mem_cons.mp he with rfl | he
    · exact .inr ⟨gate, rfl⟩
    · exact .inl he
  | dropLoader name => exact .inl (List.mem_filter.mp he).1
  | construct loader id name =>
    cases hl : s.loaders.lookup loader with
    | none =>
      rw [step_construct_of_absent id name hl] at he
      exact .inl he
    | some l =>
      rcases hc : (l.construct id s.world.hosts).value with _ | h
      · rw [step_construct_of_error name hl hc] at he
        exact .inl he
      · rw [step_construct_of_ok name hl hc] at he
        exact .inl he
  | clone handle name =>
    cases hh : s.handles.lookup handle <;>
      exact .inl (by simpa [step, clone, setHandle, hh] using he)
  | init handle selector overrides name =>
    obtain ⟨world, more, hs⟩ := init_state_frame handle selector overrides name s
    rw [step_init_state, hs] at he
    exact .inl he
  | poll place =>
    obtain ⟨world, futures, hs⟩ := poll_state_frame place s
    rw [step_poll_state, hs] at he
    exact .inl he
  | _ => exact .inl he

theorem made_of_mem {hosts : σ} (steps : List (Step η σ φ α)) :
    ∀ e ∈ ((initial hosts : Scene η σ τ φ α).after steps).loaders,
      Made steps e.1 e.2 := by
  induction steps using List.reverseRecOn with
  | nil => intro e he; exact nomatch he
  | append_singleton before x ih =>
    intro e he
    rw [after_concat] at he
    rcases step_loaders x _ e he with hmem | ⟨gate, rfl⟩
    · exact (ih e hmem).append [x]
    · exact ⟨before, gate, [], rfl⟩

theorem constructed_of_mem {hosts : σ} (steps : List (Step η σ φ α)) :
    ∀ e ∈ ((initial hosts : Scene η σ τ φ α).after steps).handles,
      (initial hosts : Scene η σ τ φ α).Constructed steps e.2 := by
  induction steps using List.reverseRecOn with
  | nil => intro e he; exact nomatch he
  | append_singleton before x ih =>
    intro e he
    rw [after_concat] at he
    rcases step_handles x _ e he with hmem | ⟨name, hmem⟩ | ⟨loader, id, name, rfl, hv⟩
    · exact (ih e hmem).append [x]
    · exact (ih _ hmem).append [x]
    · obtain ⟨l, hl, hid, hentry⟩ := construct_handle hv
      have hmade := made_of_mem before _ (Association.mem_of_lookup hl)
      subst hid
      refine ⟨before, loader, name, [], l, rfl, hl, hmade, hv, ?_⟩
      intro registrations hregistry
      rw [← Registry.get?_ofRegistrations, ← hregistry, hentry]

end Scene

end CreationLoader
