import EfiHandoff.Console
import EfiHandoff.Description.Event
import EfiHandoff.Handoff.Start
import EfiHandoff.Platform.Shelf
import EfiHandoff.Proofs.Handoff.Entry
import EfiHandoff.Proofs.Handoff.FirmwareImages
import EfiHandoff.Proofs.Relocation.Confinement
import EfiHandoff.Proofs.Relocation.TwoPhases
import EfiHandoff.Proofs.SystemTable.Memory
import EfiHandoff.Proofs.DevicePath.RoundTrip
import EfiHandoff.Proofs.SystemTable.OpenedName
import EfiHandoff.Proofs.Handoff.Steps
import EfiHandoff.Proofs.Handoff.StepOrder
import EfiHandoff.Proofs.Handoff.FirstFailure
import EfiHandoff.Proofs.Image.Headers
import EfiHandoff.Proofs.Written
import EfiHandoff.Proofs.Image.Built
import EfiHandoff.Proofs.Image.BuiltSections
import EfiHandoff.Proofs.Relocation.Encoding
import EfiHandoff.Proofs.Image.RoundTrip
import EfiHandoff.Proofs.Relocation.Composition
import EfiHandoff.Proofs.Image.Refusals
import EfiHandoff.Proofs.Handoff.Transparency
import EfiHandoff.Proofs.Relocation.InPlace
import EfiHandoff.Proofs.Conditions
import EfiHandoff.Proofs.Image.LoadFailures
import EfiHandoff.Proofs.DevicePath.FilePathBytes
import EfiHandoff.Proofs.DevicePath.RecoveredNames
import EfiHandoff.Proofs.Reservation
import EfiHandoff.Proofs.SystemTable.CopiedPath
import EfiHandoff.Proofs.SystemTable.ShimContext
import EfiHandoff.Proofs.SystemTable.ClosedFiles
import EfiHandoff.Proofs.Image.ReadBack
import EfiHandoff.Proofs.DevicePath.FileSuffix
import EfiHandoff.Proofs.Image.Window
import EfiHandoff.Proofs.LoadOptions
import EfiHandoff.Proofs.SystemTable.ExitText
import EfiHandoff.Proofs.Settings
import EfiHandoff.Proofs.Console
import EfiHandoff.Proofs.SystemTable.FailureStatus
import EfiHandoff.Proofs.SystemTable.Reporting
import EfiHandoff.Proofs.MappedMemory
