import CreationLoader.Proofs.Building
import CreationLoader.Proofs.Watching

/-!
# Who is given a handle

A loader asks for the host name, and looks the id up only if the configuration allows the host.
Main statement: a handle is constructed if and only if the host is allowed and the id was
registered. Each refusal has its own error and writes the one line of it, and of two reasons to
refuse the host name comes first.
-/

namespace CreationLoader
variable {η σ κ ν τ φ α β ι F V : Type}

namespace Registry
variable {registrations before after : List (String × Entry F V)} {id : String}

theorem get?_ofRegistrations_of_first {entry : Entry F V} (hfirst : id ∉ before.map Prod.fst) :
    (ofRegistrations (before ++ (id, entry) :: after)).get? id = some entry := by
  rw [get?_ofRegistrations, List.lookup_append, Association.lookup_eq_none hfirst,
    Option.none_or, Association.lookup_cons, if_pos rfl]

theorem get?_ofRegistrations_of_not_mem (h : id ∉ registrations.map Prod.fst) :
    (ofRegistrations registrations).get? id = none := by
  rw [get?_ofRegistrations, Association.lookup_eq_none h]

end Registry

namespace Loader
variable [Host η σ κ ν τ] [Factory φ σ κ ν α β ι]
  {l : Loader (WatchedHost η φ) (WatchedFactory η φ) α} {id : String} {s : σ}

theorem construct_watched_of_restricted
    (hp : l.config.allowedDomains.permits (Host.hostname l.host.host s).value = false) :
    l.construct id s =
      let asked := Host.hostname l.host.host s
      let line := "Wooble error : domain restricted"
      { value := .error (.domainRestricted asked.value)
        state := (Host.log l.host.host line asked.state).state
        calls := [.hostname l.host.host, .log l.host.host line]
        events := [.aborted (.domainRestricted asked.value)] } := by
  have hline := abort_watched l.host (e := .domainRestricted (Host.hostname l.host.host s).value)
    (Host.hostname l.host.host s).state rfl
  rw [construct_of_restricted hp]
  simp only [watched_hostname, hline, List.singleton_append, List.nil_append]

theorem construct_watched_of_unknown
    (hp : l.config.allowedDomains.permits (Host.hostname l.host.host s).value = true)
    (he : l.registry.get? id = none) :
    l.construct id s =
      let asked := Host.hostname l.host.host s
      let line := "Wooble error : creation " ++ id ++ " not found"
      { value := .error (.unknownCreation id)
        state := (Host.log l.host.host line asked.state).state
        calls := [.hostname l.host.host, .log l.host.host line]
        events := [.aborted (.unknownCreation id)] } := by
  have hline := abort_watched l.host (e := .unknownCreation id)
    (Host.hostname l.host.host s).state rfl
  rw [construct_of_unknown hp he]
  simp only [watched_hostname, hline, List.singleton_append, List.nil_append]

theorem construct_watched_of_known {entry : Entry (WatchedFactory η φ) α}
    (hp : l.config.allowedDomains.permits (Host.hostname l.host.host s).value = true)
    (he : l.registry.get? id = some entry) :
    l.construct id s =
      let asked := Host.hostname l.host.host s
      { value := .ok ⟨id, entry, l.host, l.gate, l.config.polyfillUrl⟩
        state := asked.state
        calls := [.hostname l.host.host]
        events := [.constructed id] } :=
  construct_of_known hp he

/-- Whatever registrations were made, also when some were refused, and whatever the configuration
and the host name: the host is asked for its name once and before all else. A handle is
constructed if and only if the list of hosts is empty or has this very name, and the id was
registered. It carries the entry that first came with the id and the URL of the configuration,
and nothing more was asked. A host that is not allowed is refused by its name, be the id
registered or not; on one that is allowed, an id that nobody has registered is refused. Each
refusal writes its line, and asks for nothing else. -/
theorem constructs_iff_allowed_and_registered
    (registrations : List (String × Entry (WatchedFactory η φ) α)) (config : Config) (host : η)
    (gate : GateId) (id : String) (s : σ) :
    let l : Loader (WatchedHost η φ) (WatchedFactory η φ) α :=
      ⟨.ofRegistrations registrations, config, ⟨host⟩, gate⟩
    let asked := Host.hostname host s
    let allowed := config.allowedDomains.domains = [] ∨ asked.value ∈ config.allowedDomains.domains
    let restricted := "Wooble error : domain restricted"
    let unknown := "Wooble error : creation " ++ id ++ " not found"
    ((∃ h, (l.construct id s).value = .ok h) ↔ allowed ∧ id ∈ registrations.map Prod.fst) ∧
    (¬ allowed → l.construct id s =
      { value := .error (.domainRestricted asked.value)
        state := (Host.log host restricted asked.state).state
        calls := [.hostname host, .log host restricted]
        events := [.aborted (.domainRestricted asked.value)] }) ∧
    (allowed → id ∉ registrations.map Prod.fst → l.construct id s =
      { value := .error (.unknownCreation id)
        state := (Host.log host unknown asked.state).state
        calls := [.hostname host, .log host unknown]
        events := [.aborted (.unknownCreation id)] }) ∧
    ∀ before entry after, registrations = before ++ (id, entry) :: after →
      id ∉ before.map Prod.fst → allowed → l.construct id s =
        { value := .ok ⟨id, entry, ⟨host⟩, gate, config.polyfillUrl⟩
          state := asked.state
          calls := [.hostname host]
          events := [.constructed id] } := by
  intro l asked allowed restricted unknown
  have hallowed : l.config.allowedDomains.permits asked.value = true ↔ allowed :=
    AllowList.permits_iff _ _
  have hrefused (hnot : ¬ allowed) : l.construct id s = _ :=
    construct_watched_of_restricted (by simpa using mt hallowed.mp hnot)
  have hmissing (hok : allowed) (hid : id ∉ registrations.map Prod.fst) : l.construct id s = _ :=
    construct_watched_of_unknown (hallowed.mpr hok) (Registry.get?_ofRegistrations_of_not_mem hid)
  refine ⟨⟨?_, ?_⟩, hrefused, hmissing, ?_⟩
  · rintro ⟨h, hv⟩
    have hok : allowed := by
      by_contra hnot
      rw [hrefused hnot] at hv
      exact nomatch hv
    refine ⟨hok, ?_⟩
    by_contra hid
    rw [hmissing hok hid] at hv
    exact nomatch hv
  · rintro ⟨hok, hid⟩
    obtain ⟨entry, hentry⟩ := Option.isSome_iff_exists.mp (Association.isSome_lookup_iff.mpr hid)
    have he : l.registry.get? id = some entry :=
      (Registry.get?_ofRegistrations registrations id).trans hentry
    exact ⟨_, congrArg Effect.value (construct_watched_of_known (hallowed.mpr hok) he)⟩
  · rintro before entry after hsplit hfirst hok
    have he : l.registry.get? id = some entry := by
      simp only [l, hsplit]
      exact Registry.get?_ofRegistrations_of_first hfirst
    exact construct_watched_of_known (hallowed.mpr hok) he

end Loader
end CreationLoader
