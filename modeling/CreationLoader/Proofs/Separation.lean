import CreationLoader.Proofs.Narrowing
import CreationLoader.Proofs.Polling
import CreationLoader.Proofs.Steps
import CreationLoader.Simulation.Host

/-!
# Loads of different scripts

What a gate does for one URL is not touched by what other gates do, or the same gate for other
URLs. When all steps that concern these are left out of a run, the steps that are left show what
they showed before. They are only numbered anew, since there are fewer loads and fewer that wait.
-/

namespace CreationLoader
open Simulation (HostRef Hosts)

variable {η σ κ ν τ φ α β ι : Type}

/-- Whether what is waited for is a load of a gate for a URL. -/
def Future.waitsFor (gate : GateId) (url : String) (loads : List (Load τ)) (f : Future η φ α) :
    Bool :=
  f.load?.any fun id => loads[id]?.any (Load.isFor gate url)

namespace Scene

/-- Steps that go on at gates: somebody asks, a host ends a load, or somebody who waits is told
or gives up. -/
def Step.isOfGates : Step η σ φ α → Bool
  | .ready .. | .isLoaded .. | .settle .. | .poll _ | .drop _ => true
  | _ => false

/-- A step that concerns one gate and URL, as it reads where only loads for these are on record
and are waited for. -/
def among (gate : GateId) (url : String) (s : Scene η σ τ φ α) :
    Step η σ φ α → Option (Step η σ φ α)
  | .ready gate' host url' name =>
    if gate' = gate ∧ url' = url then some (.ready gate' host url' name) else none
  | .isLoaded gate' url' =>
    if gate' = gate ∧ url' = url then some (.isLoaded gate' url') else none
  | .settle id outcome =>
    (placeAmong (Load.isFor gate url) s.world.loads id).map fun k => .settle k outcome
  | .poll place =>
    (placeAmong (fun e => e.2.waitsFor gate url s.world.loads) s.futures place).map .poll
  | .drop place =>
    (placeAmong (fun e => e.2.waitsFor gate url s.world.loads) s.futures place).map .drop
  | _ => none

variable [Host η σ κ ν τ] [Factory φ σ κ ν α β ι]

/-- What a step shows: its answer, and whether it begins a load. -/
def seen (s : Scene η σ τ φ α) (x : Step η σ φ α) : Answer η φ α ι × Bool :=
  ((step x s).value, decide (s.world.loads.length < (step x s).state.world.loads.length))

def seenAlong : List (Step η σ φ α) → Scene η σ τ φ α → List (Answer η φ α ι × Bool)
  | [], _ => []
  | x :: rest, s => s.seen x :: seenAlong rest (step x s).state

/-- The steps of a run that concern one gate and URL, as they read without the others, and what
each has shown among the others. -/
def separated (gate : GateId) (url : String) :
    List (Step η σ φ α) → Scene η σ τ φ α → List (Step η σ φ α × Answer η φ α ι × Bool)
  | [], _ => []
  | x :: rest, s =>
    ((s.among gate url x).map fun y => (y, s.seen x)).toList ++
      separated gate url rest (step x s).state

end Scene

/-- Whether a host knows at once how the load of a script ends does not hang on what other
scripts were asked for. So it is, for one, where loads are always ended later. -/
def LoadsApart (η : Type) [Host η σ κ ν τ] : Prop :=
  ∀ (host other : η) (url url' : String) (hosts : σ),
    (Host.loadScript host url (Host.loadScript other url' hosts).state).value.outcome =
      (Host.loadScript host url hosts).value.outcome

/-- Hosts that know the same at once about every script that they may be asked for. -/
def SameScripts (η : Type) [Host η σ κ ν τ] (hosts hosts' : σ) : Prop :=
  ∀ (host : η) (url : String),
    (Host.loadScript host url hosts).value.outcome = (Host.loadScript host url hosts').value.outcome

/-- What waits for a load, as it reads where only one gate's loads of one URL are on record. -/
def Future.narrow (gate : GateId) (url : String) (loads : List (Load τ)) :
    String × Future η φ α → Option (String × Future η φ α)
  | (name, .ready asked id) =>
    (placeAmong (Load.isFor gate url) loads id).map fun k => (name, .ready asked k)
  | (_, .binding _) => none

namespace Future
variable {gate : GateId} {url asked name : String} {loads : List (Load τ)} {id : LoadId}

theorem narrow_isSome :
    (narrow gate url loads (name, (.ready asked id : Future η φ α))).isSome =
      (ready asked id : Future η φ α).waitsFor gate url loads := by
  rw [narrow, Option.isSome_map, placeAmong_isSome]
  rfl

variable [Host η σ κ ν τ] [Factory φ σ κ ν α β ι]

/-- What is told of a load has nothing to do with the hosts. -/
theorem answer_ready (asked : String) (id k : LoadId) (hosts hosts' : σ) (o : Option Outcome) :
    (ready asked id : Future η φ α).answer hosts o =
      (ready asked k : Future η φ α).answer hosts' o := by
  rcases o with _ | _ | _ <;> rfl

theorem poll_ready_state (asked : String) (id : LoadId) (w : World σ τ) :
    ((ready asked id : Future η φ α).poll w).state =
      { w with loads := w.loads.modify id Load.deliver } := by
  rw [poll_eq]
  rcases (ready asked id : Future η φ α).outcome? w.loads with _ | _ | _ <;> rfl

end Future

namespace Scene
variable [Host η σ κ ν τ] [Factory φ σ κ ν α β ι] {gate : GateId} {url : String}
  {s t : Scene η σ τ φ α}

/-- The other scene is what is left where only one gate's loads of one URL are on record and are
waited for. -/
structure Narrows (gate : GateId) (url : String) (s t : Scene η σ τ φ α) : Prop where
  hosts : SameScripts η s.world.hosts t.world.hosts
  record : s.world.Narrows gate url t.world
  futures : t.futures = s.futures.filterMap (Future.narrow gate url s.world.loads)
  waits : ∀ e ∈ s.futures, ∃ (asked : String) (id : Nat), e.2 = .ready asked id ∧
    id < s.world.loads.length

namespace Narrows

theorem narrow_isSome (h : s.Narrows gate url t) : ∀ e ∈ s.futures,
    (Future.narrow gate url s.world.loads e).isSome = e.2.waitsFor gate url s.world.loads := by
  rintro ⟨name, f⟩ he
  obtain ⟨asked, id, rfl, -⟩ := h.waits _ he
  exact Future.narrow_isSome

theorem futures_eq (h : s.Narrows gate url t) {loads : List (Load τ)}
    (hloads : ∀ id, id < s.world.loads.length → placeAmong (Load.isFor gate url) loads id =
      placeAmong (Load.isFor gate url) s.world.loads id)
    {futures : List (String × Future η φ α)} (hsub : ∀ e ∈ futures, e ∈ s.futures) :
    futures.filterMap (Future.narrow gate url loads) =
      futures.filterMap (Future.narrow gate url s.world.loads) := by
  apply List.filterMap_congr
  rintro ⟨name, f⟩ he
  obtain ⟨asked, id, rfl, hid⟩ := h.waits _ (hsub _ he)
  simp only [Future.narrow, hloads id hid]

variable {s' t' : Scene η σ τ φ α}

theorem next (h : s.Narrows gate url t)
    (hhosts : SameScripts η s'.world.hosts t'.world.hosts)
    (hrecord : s'.world.Narrows gate url t'.world)
    (hlength : s'.world.loads.length = s.world.loads.length)
    (hloads : ∀ id, placeAmong (Load.isFor gate url) s'.world.loads id =
      placeAmong (Load.isFor gate url) s.world.loads id)
    (hsub : ∀ e ∈ s'.futures, e ∈ s.futures)
    (hfutures : t'.futures = s'.futures.filterMap (Future.narrow gate url s.world.loads)) :
    s'.Narrows gate url t' := by
  refine ⟨hhosts, hrecord, ?_, fun e he => ?_⟩
  · rw [h.futures_eq (fun id _ => hloads id) hsub, hfutures]
  · rw [hlength]
    exact h.waits e (hsub e he)

theorem wait (h : s.Narrows gate url t) {name asked : String} {id : Nat}
    {more : List (Load τ)} (hhosts : SameScripts η s'.world.hosts t'.world.hosts)
    (hrecord : s'.world.Narrows gate url t'.world)
    (hloads : s'.world.loads = s.world.loads ++ more) (hid : id < s'.world.loads.length)
    (hs : s'.futures = s.futures ++ [(name, .ready asked id)])
    (ht : t'.futures = t.futures ++
      ((placeAmong (Load.isFor gate url) s'.world.loads id).map fun k =>
        (name, Future.ready asked k)).toList) :
    s'.Narrows gate url t' := by
  have hplace (n : Nat) (hn : n < s.world.loads.length) :
      placeAmong (Load.isFor gate url) s'.world.loads n =
        placeAmong (Load.isFor gate url) s.world.loads n := by
    rw [hloads, placeAmong_append hn]
  refine ⟨hhosts, hrecord, ?_, ?_⟩
  · rw [hs, ht, List.filterMap_append, h.futures_eq hplace fun _ he => he, h.futures]
    congr 1
  · intro e he
    rw [hs] at he
    rcases List.mem_append.mp he with he | he
    · obtain ⟨asked', id', hf, hlt⟩ := h.waits e he
      refine ⟨asked', id', hf, ?_⟩
      rw [hloads, List.length_append]
      omega
    · obtain rfl := List.mem_singleton.mp he
      exact ⟨asked, id, rfl, hid⟩

end Narrows

theorem step_ready_due {host : η} {name : String} (hdue : s.world.isDue gate url = true) :
    (step (.ready gate host url name) s).state =
      let script := Host.loadScript host url s.world.hosts
      { s with
        world := { hosts := script.state
                   loads := s.world.loads ++ [Gate.begun gate url script.value] }
        futures := s.futures ++ [(name, .ready url s.world.loads.length)] } := by
  rw [step_ready_state, ready_state, Gate.ready_of_isDue host hdue, Gate.start_apply]

theorem step_ready_joined (host : η) (name : String) (hdue : s.world.isDue gate url = false) :
    ∃ (id : LoadId) (l : Load τ), s.world.current? gate url = some id ∧
      s.world.loads[id]? = some l ∧ l.isFor gate url = true ∧
      (step (.ready gate host url name) s).state =
        { s with futures := s.futures ++ [(name, .ready url id)] } := by
  obtain ⟨id, l, hcurrent, hl, hready⟩ := Gate.ready_of_not_isDue host hdue
  obtain ⟨m, hm, hfor, -⟩ := World.current?_eq_some hcurrent
  obtain rfl := Option.some.inj (hl.symm.trans hm)
  refine ⟨id, l, hcurrent, hl, hfor, ?_⟩
  rw [step_ready_state, ready_state, hready]

theorem sameScripts_after (hapart : LoadsApart η) {hosts hosts' : σ}
    (h : SameScripts η hosts hosts') (host : η) (url : String) :
    SameScripts η (Host.loadScript host url hosts).state hosts' :=
  fun host' url' => (hapart host' host url' url hosts).trans (h host' url')

theorem begun_kept (hapart : LoadsApart η) (h : s.Narrows gate url t) (host : η) (name : String)
    (hdue : s.world.isDue gate url = true) :
    (step (.ready gate host url name) s).state.Narrows gate url
        (step (.ready gate host url name) t).state ∧
      t.seen (.ready gate host url name) = s.seen (.ready gate host url name) := by
  have hdue' := h.record.isDue.trans hdue
  have hbegun := placeAmong_concat (l := s.world.loads)
    (Gate.begun_isFor gate url (Host.loadScript host url s.world.hosts).value)
  refine ⟨?_, ?_⟩
  · rw [step_ready_due hdue, step_ready_due hdue']
    refine h.wait ?_ (h.record.add rfl rfl (Gate.begun_isFor _ _ _) ?_) rfl ?_ rfl ?_
    · intro host' url'
      rw [hapart, hapart, h.hosts]
    · simp [Gate.begun, Load.bare, h.hosts host url]
    · simp
    · rw [hbegun, h.record.length]
      rfl
  · have hlonger (s : Scene η σ τ φ α) (hdue : s.world.isDue gate url = true) :
        s.world.loads.length <
          (step (.ready gate host url name) s).state.world.loads.length := by
      rw [step_ready_due hdue]
      simp
    simp only [seen, hlonger s hdue, hlonger t hdue']
    rfl

theorem joined_kept (h : s.Narrows gate url t) (host : η) (name : String)
    (hdue : s.world.isDue gate url = false) :
    (step (.ready gate host url name) s).state.Narrows gate url
        (step (.ready gate host url name) t).state ∧
      t.seen (.ready gate host url name) = s.seen (.ready gate host url name) := by
  obtain ⟨id, l, hcurrent, hl, hfor, hs⟩ := step_ready_joined host name hdue
  obtain ⟨k, m, hcurrent', -, -, ht⟩ := step_ready_joined host name (h.record.isDue.trans hdue)
  have hk : placeAmong (Load.isFor gate url) s.world.loads id = some k := by
    rw [h.record.current?, hcurrent] at hcurrent'
    exact hcurrent'
  refine ⟨?_, ?_⟩
  · rw [hs, ht]
    refine h.wait h.hosts h.record (List.append_nil _).symm ?_ rfl ?_
    · exact (List.getElem?_eq_some_iff.mp hl).1
    · rw [hk]
      rfl
  · simp only [seen, hs, ht, Nat.lt_irrefl]
    rfl

/-- What is last on either record has come equally far, so both begin a load or both join one. -/
theorem ready_kept (hapart : LoadsApart η) (h : s.Narrows gate url t) (host : η) (name : String) :
    (step (.ready gate host url name) s).state.Narrows gate url
        (step (.ready gate host url name) t).state ∧
      t.seen (.ready gate host url name) = s.seen (.ready gate host url name) := by
  cases hdue : s.world.isDue gate url with
  | true => exact begun_kept hapart h host name hdue
  | false => exact joined_kept h host name hdue

theorem ready_other (hapart : LoadsApart η) (h : s.Narrows gate url t) {gate' : GateId}
    {url' : String} (hother : ¬ (gate' = gate ∧ url' = url)) (host : η) (name : String) :
    (step (.ready gate' host url' name) s).state.Narrows gate url t := by
  cases hdue : s.world.isDue gate' url' with
  | true =>
    have hbegun := Load.isFor_other
      (Gate.begun_isFor gate' url' (Host.loadScript host url' s.world.hosts).value) hother
    rw [step_ready_due hdue]
    refine h.wait (sameScripts_after hapart h.hosts host url') (h.record.add_other rfl hbegun)
      rfl ?_ rfl ?_
    · simp
    · rw [placeAmong_of_not List.getElem?_concat_length hbegun]
      exact (List.append_nil _).symm
  | false =>
    obtain ⟨id, l, -, hl, hfor, hs⟩ := step_ready_joined host name hdue
    rw [hs]
    refine h.wait h.hosts h.record (List.append_nil _).symm ?_ rfl ?_
    · exact (List.getElem?_eq_some_iff.mp hl).1
    · rw [placeAmong_of_not hl (Load.isFor_other hfor hother)]
      exact (List.append_nil _).symm

theorem settle_kept (h : s.Narrows gate url t) {id k : LoadId} (outcome : Outcome)
    (hk : placeAmong (Load.isFor gate url) s.world.loads id = some k) :
    (step (.settle id outcome) s).state.Narrows gate url (step (.settle k outcome) t).state := by
  have halike := World.alike_settle (τ := τ) outcome
  refine h.next h.hosts (h.record.modify halike hk rfl rfl) (List.length_modify _ _ _) ?_
    (fun _ he => he) h.futures
  exact placeAmong_modify (halike.isFor gate url) s.world.loads id

theorem settle_other (h : s.Narrows gate url t) {id : LoadId} (outcome : Outcome)
    (hk : placeAmong (Load.isFor gate url) s.world.loads id = none) :
    (step (.settle id outcome) s).state.Narrows gate url t := by
  have halike := World.alike_settle (τ := τ) outcome
  refine h.next h.hosts (h.record.modify_other halike hk rfl) (List.length_modify _ _ _) ?_
    (fun _ he => he) h.futures
  exact placeAmong_modify (halike.isFor gate url) s.world.loads id

section
variable {place k : Nat}

/-- What waits for a load that is kept is found at its new place, with the load's new number. -/
theorem Narrows.found (h : s.Narrows gate url t)
    (hk : placeAmong (fun e => e.2.waitsFor gate url s.world.loads) s.futures place = some k) :
    ∃ name asked id n, s.futures[place]? = some (name, .ready asked id) ∧
      placeAmong (Load.isFor gate url) s.world.loads id = some n ∧
      t.futures[k]? = some (name, .ready asked n) := by
  have hpicked := getElem?_filterMap h.narrow_isSome hk
  rw [← h.futures] at hpicked
  have hwaits := placeAmong_isSome (fun e => e.2.waitsFor gate url s.world.loads) s.futures place
  rw [hk] at hwaits
  obtain ⟨⟨name, f⟩, he, hfor⟩ := (Option.any_eq_true _ _).mp hwaits.symm
  obtain ⟨asked, id, rfl, -⟩ := h.waits _ (List.mem_of_getElem? he)
  have hn : (placeAmong (Load.isFor gate url) s.world.loads id).isSome = true := by
    rw [placeAmong_isSome]
    exact hfor
  obtain ⟨n, hn⟩ := Option.isSome_iff_exists.mp hn
  refine ⟨name, asked, id, n, he, hn, ?_⟩
  rw [hpicked, he, Option.bind_some, Future.narrow, hn, Option.map_some]

theorem Narrows.not_found (h : s.Narrows gate url t) {e : String × Future η φ α}
    (hk : placeAmong (fun e => e.2.waitsFor gate url s.world.loads) s.futures place = none)
    (he : s.futures[place]? = some e) :
    ∃ asked id, e.2 = .ready asked id ∧
      placeAmong (Load.isFor gate url) s.world.loads id = none := by
  obtain ⟨asked, id, hf, -⟩ := h.waits _ (List.mem_of_getElem? he)
  have hwaits := placeAmong_isSome (fun e => e.2.waitsFor gate url s.world.loads) s.futures place
  rw [hk, he, Option.any_some, hf] at hwaits
  have hn : (placeAmong (Load.isFor gate url) s.world.loads id).isSome = false := by
    rw [placeAmong_isSome]
    exact hwaits.symm
  exact ⟨asked, id, hf, Option.isSome_eq_false_iff.mp hn |> Option.isNone_iff_eq_none.mp⟩

theorem mem_of_stays {stays : Bool} {e : String × Future η φ α}
    (he : e ∈ if stays then s.futures else s.futures.eraseIdx place) : e ∈ s.futures := by
  cases stays with
  | true => exact he
  | false => exact List.mem_of_mem_eraseIdx he

theorem Narrows.futures_without (h : s.Narrows gate url t)
    (hk : placeAmong (fun e => e.2.waitsFor gate url s.world.loads) s.futures place = some k)
    (stays : Bool) :
    (if stays then t.futures else t.futures.eraseIdx k) =
      (if stays then s.futures else s.futures.eraseIdx place).filterMap
        (Future.narrow gate url s.world.loads) := by
  cases stays with
  | true => exact h.futures
  | false =>
    have herase := filterMap_eraseIdx_of_some h.narrow_isSome hk
    rw [← h.futures] at herase
    exact herase.symm

theorem Narrows.futures_without_other (h : s.Narrows gate url t)
    (hk : placeAmong (fun e => e.2.waitsFor gate url s.world.loads) s.futures place = none)
    (stays : Bool) :
    t.futures = (if stays then s.futures else s.futures.eraseIdx place).filterMap
      (Future.narrow gate url s.world.loads) := by
  cases stays with
  | true => exact h.futures
  | false =>
    have herase := filterMap_eraseIdx_of_none h.narrow_isSome hk
    rw [← h.futures] at herase
    exact herase.symm

theorem poll_kept (h : s.Narrows gate url t)
    (hk : placeAmong (fun e => e.2.waitsFor gate url s.world.loads) s.futures place = some k) :
    (step (.poll place) s).state.Narrows gate url (step (.poll k) t).state ∧
      t.seen (.poll k) = s.seen (.poll place) := by
  obtain ⟨name, asked, id, n, hs, hn, ht⟩ := h.found hk
  have hvalue : ((Future.ready asked n : Future η φ α).poll t.world).value =
      ((Future.ready asked id : Future η φ α).poll s.world).value := by
    rw [Future.poll_gives, Future.poll_gives, Future.proceed_value, Future.proceed_value,
      Future.answer_ready asked n id t.world.hosts s.world.hosts]
    exact congrArg _ (h.record.outcome? hn)
  rw [seen, seen, step_poll_eq hs, step_poll_eq ht]
  simp only [hvalue, Future.poll_ready_state, List.length_modify, Nat.lt_irrefl]
  refine ⟨?_, trivial⟩
  refine h.next h.hosts (h.record.modify World.alike_deliver hn rfl rfl) (List.length_modify _ _ _)
    ?_ (fun _ => mem_of_stays) (h.futures_without hk _)
  exact placeAmong_modify (World.alike_deliver.isFor gate url) s.world.loads id

theorem poll_other (h : s.Narrows gate url t)
    (hk : placeAmong (fun e => e.2.waitsFor gate url s.world.loads) s.futures place = none) :
    (step (.poll place) s).state.Narrows gate url t := by
  cases he : s.futures[place]? with
  | none =>
    rw [step_poll_state, poll_of_absent he]
    exact h
  | some e =>
    obtain ⟨asked, id, hf, hn⟩ := h.not_found hk he
    rw [step_poll_eq he]
    simp only [hf, Future.poll_ready_state]
    refine h.next h.hosts (h.record.modify_other World.alike_deliver hn rfl)
      (List.length_modify _ _ _) ?_ (fun _ => mem_of_stays) (h.futures_without_other hk _)
    exact placeAmong_modify (World.alike_deliver.isFor gate url) s.world.loads id

theorem drop_kept (h : s.Narrows gate url t)
    (hk : placeAmong (fun e => e.2.waitsFor gate url s.world.loads) s.futures place = some k) :
    (step (.drop place) s).state.Narrows gate url (step (.drop k) t).state :=
  h.next h.hosts h.record rfl (fun _ => rfl) (fun _ => List.mem_of_mem_eraseIdx)
    (h.futures_without hk false)

theorem drop_other (h : s.Narrows gate url t)
    (hk : placeAmong (fun e => e.2.waitsFor gate url s.world.loads) s.futures place = none) :
    (step (.drop place) s).state.Narrows gate url t :=
  h.next h.hosts h.record rfl (fun _ => rfl) (fun _ => List.mem_of_mem_eraseIdx)
    (h.futures_without_other hk false)

end

/-- A step that concerns other loads leaves the narrowed scene as it is. -/
theorem step_other (hapart : LoadsApart η) (h : s.Narrows gate url t) {x : Step η σ φ α}
    (hx : x.isOfGates = true) (hnone : s.among gate url x = none) :
    (step x s).state.Narrows gate url t := by
  cases x with
  | ready gate' host url' name =>
    have hother : ¬ (gate' = gate ∧ url' = url) := by simpa [among] using hnone
    exact ready_other hapart h hother host name
  | isLoaded gate' url' => exact h
  | settle id outcome => exact settle_other h outcome (by simpa [among] using hnone)
  | poll place => exact poll_other h (by simpa [among] using hnone)
  | drop place => exact drop_other h (by simpa [among] using hnone)
  | _ => exact nomatch hx

theorem seen_of_length {x : Step η σ φ α}
    (h : (step x s).state.world.loads.length = s.world.loads.length) :
    s.seen x = ((step x s).value, false) := by
  simp [seen, h]

/-- A step that concerns loads that are kept shows in the narrowed scene what it shows. -/
theorem step_kept (hapart : LoadsApart η) (h : s.Narrows gate url t) {x y : Step η σ φ α}
    (hsome : s.among gate url x = some y) :
    (step x s).state.Narrows gate url (step y t).state ∧ t.seen y = s.seen x := by
  cases x with
  | ready gate' host url' name =>
    obtain ⟨⟨rfl, rfl⟩, rfl⟩ : (gate' = gate ∧ url' = url) ∧ .ready gate' host url' name = y := by
      simpa [among] using hsome
    exact ready_kept hapart h host name
  | isLoaded gate' url' =>
    obtain ⟨⟨rfl, rfl⟩, rfl⟩ : (gate' = gate ∧ url' = url) ∧ .isLoaded gate' url' = y := by
      simpa [among] using hsome
    refine ⟨h, ?_⟩
    rw [seen_of_length rfl, seen_of_length rfl]
    exact congrArg (fun is => (Answer.loaded is, false)) h.record.isLoaded
  | settle id outcome =>
    obtain ⟨k, hk, rfl⟩ := Option.map_eq_some_iff.mp hsome
    have hlength (id : LoadId) (s : Scene η σ τ φ α) :
        (step (.settle id outcome) s).state.world.loads.length = s.world.loads.length :=
      List.length_modify _ _ _
    refine ⟨settle_kept h outcome hk, ?_⟩
    rw [seen_of_length (hlength k t), seen_of_length (hlength id s)]
    rfl
  | poll place =>
    obtain ⟨k, hk, rfl⟩ := Option.map_eq_some_iff.mp hsome
    exact poll_kept h hk
  | drop place =>
    obtain ⟨k, hk, rfl⟩ := Option.map_eq_some_iff.mp hsome
    refine ⟨drop_kept h hk, ?_⟩
    rw [seen_of_length rfl, seen_of_length rfl]
    rfl
  | _ => exact nomatch hsome

theorem seenAlong_separated (hapart : LoadsApart η) {steps : List (Step η σ φ α)}
    (hsteps : ∀ x ∈ steps, x.isOfGates = true) (h : s.Narrows gate url t) :
    seenAlong ((separated gate url steps s).map Prod.fst) t =
      (separated gate url steps s).map Prod.snd := by
  induction steps generalizing s t with
  | nil => rfl
  | cons x rest ih =>
    obtain ⟨hx, hrest⟩ := List.forall_mem_cons.mp hsteps
    cases hy : s.among gate url x with
    | none =>
      simp only [separated, hy, Option.map_none, Option.toList_none, List.nil_append]
      exact ih hrest (step_other hapart h hx hy)
    | some y =>
      obtain ⟨hnext, hseen⟩ := step_kept hapart h hy
      simp only [separated, hy, Option.map_some, Option.toList_some, List.singleton_append,
        List.map_cons, seenAlong, hseen, ih hrest hnext]

theorem narrows_initial (gate : GateId) (url : String) (hosts : σ) :
    (initial hosts : Scene η σ τ φ α).Narrows gate url (initial hosts) :=
  ⟨fun _ _ => rfl, rfl, rfl, fun _ he => nomatch he⟩

/-- Loads for different gates and URLs do not touch each other. Take any run in which somebody
asks gates, hosts end loads, and those who wait are told or give up, and leave out of it all
steps that concern other gates or URLs than one. Then every step that is left answers what it has
answered in the whole run, and begins a load if and only if it has begun one there. -/
theorem separated_shows_same (hapart : LoadsApart η) (gate : GateId) (url : String) (hosts : σ)
    {steps : List (Step η σ φ α)} (hsteps : ∀ x ∈ steps, x.isOfGates = true) :
    let start : Scene η σ τ φ α := initial hosts
    seenAlong ((separated gate url steps start).map Prod.fst) start =
      (separated gate url steps start).map Prod.snd :=
  seenAlong_separated hapart hsteps (narrows_initial gate url hosts)

/-- The script "a" fails, and "b" loads. Without the steps for "a", all is the same for "b". -/
theorem shows_same_without_failure :
    let start : Scene HostRef Hosts HostRef Simulation.Factory Json.Value := initial []
    let ask (url name : String) : Step HostRef Hosts Simulation.Factory Json.Value :=
      .ready (.named "gate") ⟨"page"⟩ url name
    let steps := [ask "a" "first", ask "b" "second", .settle 0 (.failed "404"), .settle 1 .loaded,
      .poll 0, .poll 0, .isLoaded (.named "gate") "b"]
    let alone := [ask "b" "second", .settle 0 .loaded, .poll 0, .isLoaded (.named "gate") "b"]
    (separated (.named "gate") "b" steps start).map Prod.fst = alone ∧
      seenAlong alone start = (separated (.named "gate") "b" steps start).map Prod.snd ∧
      (seenAlong alone start).map Prod.snd = [true, false, false, false] := by
  intro start ask steps alone
  have hapart : LoadsApart HostRef := fun _ _ _ _ _ => rfl
  have hsteps : ∀ x ∈ steps, x.isOfGates = true := by simp [steps, ask, Step.isOfGates]
  have hsame := separated_shows_same hapart (.named "gate") "b" [] hsteps
  have halone : (separated (.named "gate") "b" steps start).map Prod.fst = alone := rfl
  refine ⟨halone, ?_, by decide +kernel⟩
  rw [← halone]
  exact hsame

end Scene

end CreationLoader
