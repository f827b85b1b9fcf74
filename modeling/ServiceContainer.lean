import ServiceContainer.Proofs.Execution.Endowment
import ServiceContainer.Options.Environment
import ServiceContainer.Options.Json
import ServiceContainer.CallSite.Listing
import ServiceContainer.Session
import ServiceContainer.Proofs.Constructor.Choice
import ServiceContainer.Proofs.Strategies
import ServiceContainer.Proofs.CallSite.Transparency
import ServiceContainer.Proofs.CallSite.Search
import ServiceContainer.Proofs.Engine.Precedence
import ServiceContainer.Proofs.Uniqueness
import ServiceContainer.Proofs.Confinement
import ServiceContainer.Proofs.Disposal
import ServiceContainer.Proofs.Dependents
import ServiceContainer.Proofs.Termination
import ServiceContainer.Proofs.Engine.Validation
import ServiceContainer.Proofs.Engine.Consulted
import ServiceContainer.Proofs.Engine.Factories
import ServiceContainer.Proofs.Notices
import ServiceContainer.Proofs.Isolation
import ServiceContainer.Proofs.Typing.Soundness
import ServiceContainer.Proofs.Filters
import ServiceContainer.Proofs.Teardown
import ServiceContainer.Proofs.Singletons
import ServiceContainer.Proofs.Collections
import ServiceContainer.Proofs.Engine.Wiring
import ServiceContainer.Proofs.Observer.Metrics
import ServiceContainer.Proofs.Displacement
import ServiceContainer.Proofs.Presence
import ServiceContainer.Proofs.Arguments
import ServiceContainer.Proofs.Service.Identity
import ServiceContainer.Proofs.Registry.Index
import ServiceContainer.Proofs.Identification
import ServiceContainer.Proofs.Activators
