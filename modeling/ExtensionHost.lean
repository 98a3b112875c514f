import ExtensionHost.Host.Run
import ExtensionHost.Journal
import ExtensionHost.Script
import ExtensionHost.Settings.Source
import ExtensionHost.Error.Codec
import ExtensionHost.Proofs.BatchCourse
import ExtensionHost.Proofs.BatchOrder
import ExtensionHost.Proofs.CallerTurns
import ExtensionHost.Proofs.CleanupHooks
import ExtensionHost.Proofs.Convergence
import ExtensionHost.Proofs.Conversion
import ExtensionHost.Proofs.Deadline
import ExtensionHost.Proofs.Departure
import ExtensionHost.Proofs.DrainCourse
import ExtensionHost.Proofs.DrainReport
import ExtensionHost.Proofs.EnableEnding
import ExtensionHost.Proofs.Envelopes
import ExtensionHost.Proofs.ErrorText
import ExtensionHost.Proofs.EventText
import ExtensionHost.Proofs.GoingBack
import ExtensionHost.Proofs.InStep
import ExtensionHost.Proofs.Invocation
import ExtensionHost.Proofs.Libraries
import ExtensionHost.Proofs.PendingLooks
import ExtensionHost.Proofs.Requests
import ExtensionHost.Proofs.SharedRegistry
import ExtensionHost.Proofs.Starts
import ExtensionHost.Proofs.Subfolders
import ExtensionHost.Proofs.Trail
import ExtensionHost.Proofs.Truncation
import ExtensionHost.Proofs.UpdateEnding
import ExtensionHost.Proofs.VersionOrder
import ExtensionHost.Proofs.Watching
