import AppManifest.CommandLine.Folder
import AppManifest.Main
import AppManifest.Proofs.Description.Calls
import AppManifest.Proofs.Description.Coherence
import AppManifest.Proofs.Description.Culprits
import AppManifest.Proofs.Description.RoundTrip
import AppManifest.Proofs.Manifest.Failure
import AppManifest.Proofs.Manifest.Precedence
import AppManifest.Proofs.Manifest.Rearrangement
import AppManifest.Proofs.Navigation
import AppManifest.Proofs.Registry.Closure
import AppManifest.Proofs.Registry.Traversal
import AppManifest.Proofs.Workflow.Wiring
import AppManifest.Proofs.Workflow.Sources
import AppManifest.Proofs.Description.Placeholders
import AppManifest.Proofs.Description.ReadBack
import AppManifest.Proofs.Description.Canonical
import AppManifest.Proofs.Description.Termination
import AppManifest.Proofs.Description.References
import AppManifest.Proofs.Description.Transparency
import AppManifest.Proofs.Description.Templates
import AppManifest.Proofs.Manifest.Transcript
import AppManifest.Proofs.Definition.Builder
import AppManifest.Proofs.Description.Layout
