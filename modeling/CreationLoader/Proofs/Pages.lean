import CreationLoader.Browser.Factory
import CreationLoader.Proofs.Instances

/-!
# What is asked of a page, and what it leaves

Only the appending of a script element and the objects of parameters change a page. Whatever
else is asked of it leaves it as it is, and nothing takes a script element out of the head.
-/

namespace CreationLoader.Browser
open Script

@[simp] theorem hostname_apply (d : Document) (p : Page) :
    (Host.hostname d : Action Page Call String) p =
      { value := p.hostname.getD "", state := p, calls := [.hostname] } := by
  simp [Host.hostname]

@[simp] theorem supportsShadowDom_apply (d : Document) (p : Page) :
    (Host.supportsShadowDom d : Action Page Call Bool) p =
      { value := p.supportsShadowDom, state := p } := by
  simp [Host.supportsShadowDom]

@[simp] theorem log_apply (d : Document) (line : String) (p : Page) :
    (Host.log d line : Action Page Call Unit) p =
      { value := (), state := p, calls := [.log line] } := rfl

@[simp] theorem hasMatch_apply (d : Document) (selector : String) (p : Page) :
    (Host.hasMatch d selector : Action Page Call Bool) p =
      { value := !((p.select selector).toOption.getD []).isEmpty
        state := p
        calls := [.querySelector selector] } := by
  cases h : p.select selector <;> simp [Host.hasMatch, h, Except.toOption]

theorem queryAll_value (d : Document) (selector : String) (p : Page) :
    (Host.queryAll d selector p).value = (p.select selector).toOption.getD [] := by
  cases h : p.select selector <;> simp [Host.queryAll, queryAll, h, Except.toOption]

@[simp] theorem queryAll_state (d : Document) (selector : String) (p : Page) :
    (Host.queryAll d selector p).state = p := by
  cases h : p.select selector <;> simp [Host.queryAll, queryAll, h]

theorem queryAll_calls (d : Document) (selector : String) (p : Page) :
    (Host.queryAll d selector p).calls = [.querySelectorAll selector] := by
  cases h : p.select selector <;> simp [Host.queryAll, queryAll, h]

/-- What a page gives as the reason when no script element can be appended: creating it throws, or
what is created is no script element, or there is no head, or appending throws. The first of these
decides. -/
inductive Page.Refuses (p : Page) : String → Prop
  | creating {thrown : Value} : p.createThrows = some thrown → Refuses p (p.heap.reason thrown)
  | foreign : p.createThrows = none → p.foreignScripts = true →
      Refuses p "Failed to cast to HtmlScriptElement"
  | headless : p.createThrows = none → p.foreignScripts = false → p.head = none →
      Refuses p "Document has no head"
  | appending {thrown shadow : Value} : p.createThrows = none → p.foreignScripts = false →
      p.head = some shadow → p.appendThrows = some thrown → Refuses p (p.heap.reason thrown)

/-- A load that is refused has failed from the start, and nothing was appended. -/
theorem loadScript_of_refuses {p : Page} {reason : String} (h : p.Refuses reason) (d : Document)
    (url : String) :
    (Host.loadScript d url p).value = failedLoad reason ∧ (Host.loadScript d url p).state = p := by
  cases h with
  | creating hcreate => simp [Host.loadScript, loadScript, hcreate]
  | foreign hcreate hforeign => simp [Host.loadScript, loadScript, hcreate, hforeign]
  | headless hcreate hforeign hhead => simp [Host.loadScript, loadScript, hcreate, hforeign, hhead]
  | appending hcreate hforeign hhead happend =>
    simp [Host.loadScript, loadScript, hcreate, hforeign, hhead, happend]

/-- Where nothing is refused, a script element stands in the head when the load is begun. -/
theorem loadScript_of_not_refuses {p : Page} (h : ∀ reason, ¬ p.Refuses reason) (d : Document)
    (url : String) :
    (Host.loadScript d url p).value = { source := some p.scripts.length } ∧
      (Host.loadScript d url p).state = { p with scripts := p.scripts ++ [url] } := by
  cases hcreate : p.createThrows with
  | some thrown => exact absurd (.creating hcreate) (h _)
  | none =>
    cases hforeign : p.foreignScripts with
    | true => exact absurd (.foreign hcreate hforeign) (h _)
    | false =>
      cases hhead : p.head with
      | none => exact absurd (.headless hcreate hforeign hhead) (h _)
      | some shadow =>
        cases happend : p.appendThrows with
        | some thrown => exact absurd (.appending hcreate hforeign hhead happend) (h _)
        | none => simp [Host.loadScript, loadScript, hcreate, hforeign, hhead, happend]

/-- A script element stands in the head when the load is begun, or the load has failed and
nothing was appended. -/
theorem loadScript_cases (d : Document) (url : String) (p : Page) :
    (∃ reason, (Host.loadScript d url p).value = failedLoad reason ∧
      (Host.loadScript d url p).state = p) ∨
    ((Host.loadScript d url p).value = { source := some p.scripts.length } ∧
      (Host.loadScript d url p).state = { p with scripts := p.scripts ++ [url] }) := by
  by_cases hrefuses : ∃ reason, p.Refuses reason
  · obtain ⟨reason, hreason⟩ := hrefuses
    exact .inl ⟨reason, loadScript_of_refuses hreason d url⟩
  · exact .inr (loadScript_of_not_refuses (fun reason h => hrefuses ⟨reason, h⟩) d url)

theorem loadScript_scripts (d : Document) (url : String) (p : Page) :
    p.scripts <+: (Host.loadScript d url p).state.scripts := by
  rcases loadScript_cases d url p with ⟨reason, -, h⟩ | ⟨-, h⟩
  · simp only [h, List.prefix_rfl]
  · rw [h]
    exact List.prefix_append _ _

@[simp] theorem abort_state (d : Document) (e : LoaderError) (p : Page) :
    (abort d e p).state = p := by
  cases h : e.diagnostic <;> simp [abort, h]

theorem construct_state {F V : Type} (l : Loader Document F V) (id : String) (p : Page) :
    (l.construct id p).state = p := by
  cases hp : l.config.allowedDomains.permits (p.hostname.getD "") with
  | false => rw [Loader.construct_of_restricted (by simpa using hp)]; simp
  | true =>
    cases he : l.registry.get? id with
    | none => rw [Loader.construct_of_unknown (by simpa using hp) he]; simp
    | some entry => rw [Loader.construct_of_known (by simpa using hp) he]; simp

/-- On a page, an init leaves the world as it is, unless it asks the gate for a load. -/
theorem init_cases {F V : Type} (h : Handle Document F V) (selector : String)
    (overrides : Option (Params V)) (w : World Page (Option Nat)) :
    ((h.init selector overrides w).value = .error (.targetNotFound selector) ∧
      (h.init selector overrides w).state = w) ∨
    ((h.init selector overrides w).value = .ok (h.pending selector overrides none) ∧
      (h.init selector overrides w).state = w) ∨
    ((h.init selector overrides w).value = .ok
        (h.pending selector overrides (some (Gate.ready h.gate h.host h.polyfillUrl w).value)) ∧
      (h.init selector overrides w).state = (Gate.ready h.gate h.host h.polyfillUrl w).state) := by
  cases hm : (Host.hasMatch h.host selector w.hosts).value with
  | false =>
    rw [Handle.init_of_no_match overrides hm]
    simp
  | true =>
    cases hs : (Host.supportsShadowDom h.host
        (Host.hasMatch h.host selector w.hosts).state).value with
    | true =>
      rw [Handle.init_of_native overrides hm hs]
      simp
    | false =>
      rw [Handle.init_of_polyfilled overrides hm hs]
      simp

theorem init_scripts {F V : Type} (h : Handle Document F V) (selector : String)
    (overrides : Option (Params V)) (w : World Page (Option Nat)) :
    w.hosts.scripts <+: (h.init selector overrides w).state.hosts.scripts := by
  rcases init_cases h selector overrides w with ⟨-, hw⟩ | ⟨-, hw⟩ | ⟨-, hw⟩
  · simp only [hw, List.prefix_rfl]
  · simp only [hw, List.prefix_rfl]
  · rw [hw]
    cases hdue : w.isDue h.gate h.polyfillUrl with
    | true =>
      rw [Gate.ready_of_isDue h.host hdue, Gate.start_apply]
      exact loadScript_scripts h.host h.polyfillUrl w.hosts
    | false =>
      obtain ⟨id, l, -, -, hready⟩ := Gate.ready_of_not_isDue h.host hdue
      simp only [hready, List.prefix_rfl]

theorem receive_page (params : Ref) (p : Page) :
    ∃ received, (receive params p).state = { p with received } := by
  cases h : p.received.findIdx? (· == params) with
  | some number => exact ⟨p.received, by simp [receive, h]⟩
  | none => exact ⟨_, by simp [receive, h]; rfl⟩

/-- Calling a class notes the object of parameters, and may make assignments. -/
theorem construct_page (c : Class) (node : Nat) (params : Ref) (p : Page) :
    ∃ heap received, (c.construct node params p).state = { p with heap, received } := by
  obtain ⟨received, hreceive⟩ := receive_page params p
  cases ht : (c.constructor p.heap).throws.find? fun e => e.1 == node with
  | some e => exact ⟨p.heap, received, by simp [Class.construct, hreceive, ht]⟩
  | none => exact ⟨_, received, by simp [Class.construct, hreceive, ht]; rfl⟩

/-- Whatever constructors do, they leave the script elements alone. -/
theorem covers_scripts :
    Covers Document Class (σ := Page) (κ := Call)
      fun x => ∀ p, (x p).state.scripts = p.scripts where
  pure _ _ := rfl
  bind hx hf p := by rw [Action.bind_apply, hf, hx]
  queryAll d selector p := by rw [queryAll_state]
  instantiating _ _ _ _ := rfl
  prepare _ _ _ := rfl
  create c node params p := by
    obtain ⟨heap, received, hconstruct⟩ := construct_page c node params p
    change (c.construct node params p).state.scripts = p.scripts
    rw [hconstruct]
  creationFailed _ _ _ := rfl

end CreationLoader.Browser
