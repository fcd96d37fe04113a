import RestBindings.Main
import RestBindings.Output.Memory
import RestBindings.Proofs.Acceptance
import RestBindings.Proofs.Accents
import RestBindings.Proofs.Agreement
import RestBindings.Proofs.Annotations
import RestBindings.Proofs.Batches
import RestBindings.Proofs.ClassMaps
import RestBindings.Proofs.Collisions
import RestBindings.Proofs.Configurations
import RestBindings.Proofs.Containment
import RestBindings.Proofs.Edits
import RestBindings.Proofs.Formats
import RestBindings.Proofs.Histories
import RestBindings.Proofs.Hosts
import RestBindings.Proofs.Independence
import RestBindings.Proofs.Loading
import RestBindings.Proofs.Locality
import RestBindings.Proofs.Members
import RestBindings.Proofs.Mirroring
import RestBindings.Proofs.Nesting
import RestBindings.Proofs.Ordering
import RestBindings.Proofs.Overrides
import RestBindings.Proofs.Overwriting
import RestBindings.Proofs.Packages
import RestBindings.Proofs.Refusals
import RestBindings.Proofs.RoundTrip
import RestBindings.Proofs.Selection
import RestBindings.Proofs.Selectors
import RestBindings.Proofs.Stopping
import RestBindings.Proofs.Templates
import RestBindings.Proofs.Variables
