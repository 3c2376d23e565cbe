import CreationLoader.Browser.Session
import CreationLoader.Config.Json
import CreationLoader.Params.Source
import CreationLoader.Proofs.Admission
import CreationLoader.Proofs.Building
import CreationLoader.Proofs.Commuting
import CreationLoader.Proofs.ConfigForms
import CreationLoader.Proofs.ConfigObjects
import CreationLoader.Proofs.Diagnostics
import CreationLoader.Proofs.FirstEvent
import CreationLoader.Proofs.FirstFailure
import CreationLoader.Proofs.HandedOver
import CreationLoader.Proofs.History
import CreationLoader.Proofs.LoadAccounts
import CreationLoader.Proofs.Loaded
import CreationLoader.Proofs.NativePath
import CreationLoader.Proofs.Preparing
import CreationLoader.Proofs.Primitives
import CreationLoader.Proofs.Retry
import CreationLoader.Proofs.RoundTrip
import CreationLoader.Proofs.Sameness
import CreationLoader.Proofs.Separation
import CreationLoader.Proofs.Sessions
import CreationLoader.Proofs.Settling
import CreationLoader.Proofs.Tags
import CreationLoader.Proofs.Waiting
import CreationLoader.Registry
import CreationLoader.Simulation.Session
