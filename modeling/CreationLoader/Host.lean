import CreationLoader.Action
import CreationLoader.Params.Basic

/-!
# Hosts and factories

A host is the page that creations are built on, as far as the loader needs it: it has a host
name, may support shadow DOM, finds elements, loads scripts and writes lines to a console. A
factory makes the instances of a creation.

Both act on a state that is theirs; the loads that a loader keeps count of are not part of
it.
-/

namespace CreationLoader

inductive Outcome
  | loaded
  | failed (reason : String)
  deriving DecidableEq, Repr, Inhabited

/-- A script load that a host has begun: where it was begun, and its outcome if the host knows
it already. -/
structure ScriptLoad (τ : Type) where
  source : τ
  outcome : Option Outcome := none

/-- Hosts, reached through references of type `η`. They act on states of type `σ` by calls of
type `κ`, their elements are of type `ν`, and `τ` says where a script load was begun. -/
class Host (η : Type) (σ κ ν τ : outParam Type) where
  hostname : η → Action σ κ String
  /-- Whether elements can have a native shadow root. -/
  supportsShadowDom : η → Action σ κ Bool
  /-- The elements that match a selector, in document order. -/
  queryAll : η → String → Action σ κ (List ν)
  /-- Whether some element matches a selector. -/
  hasMatch : η → String → Action σ κ Bool
  loadScript : η → String → Action σ κ (ScriptLoad τ)
  /-- Writes a line to the console of the page. -/
  log : η → String → Action σ κ Unit

/-- Factories of type `φ`, for parameter values of type `α` and elements of type `ν`. One call
prepares the parameters, and what it gives is handed to the instance of every element. -/
class Factory (φ : Type) (σ κ ν α : outParam Type) (β ι : outParam Type) where
  /-- Turns merged parameters into what the instances receive, or says why it cannot. -/
  prepare : φ → Params α → Action σ κ (Except String β)
  /-- Makes the instance for an element, or says why it cannot. -/
  create : φ → ν → β → Action σ κ (Except String ι)

end CreationLoader
