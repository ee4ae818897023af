import VmResource.Json.Shown
import VmResource.Text.Integer
import VmResource.Text.Path
import VmResource.Time.Calendar
import VmResource.Time.DateTime
import VmResource.Violation
import VmResource.Check
import VmResource.Error
import VmResource.Check.Scalar
import VmResource.Identity.Link
import VmResource.Payload.Scalar
import VmResource.Instance.Rebind
import VmResource.Check.Part
import VmResource.Payload.Read
import VmResource.Payload.Write
import VmResource.Resource.Fields
import VmResource.Payload.Instance
import VmResource.Message
import VmResource.Resource.Operations
import VmResource.Proofs.Entries
import VmResource.Proofs.IntegerText
import VmResource.Proofs.Link
import VmResource.Proofs.LinkGrammar
import VmResource.Proofs.Calendar
import VmResource.Proofs.DayCount
import VmResource.Proofs.InstantText
import VmResource.Proofs.DateTimeGrammar
import VmResource.Proofs.InstantOrder
import VmResource.Proofs.PartPayload
import VmResource.Proofs.DiskPayload
import VmResource.Proofs.Staged
import VmResource.Proofs.InstancePayload
import VmResource.Proofs.Grammar
import VmResource.Proofs.DiskGrammar
import VmResource.Proofs.RoundTrip
import VmResource.Proofs.SamePayload
import VmResource.Proofs.InstantRange
import VmResource.Proofs.Validated
import VmResource.Proofs.Refusals
import VmResource.Proofs.BuilderRun
import VmResource.Proofs.BuildOutcome
import VmResource.Proofs.AssignedState
import VmResource.Proofs.Failure
import VmResource.Proofs.IntegerReading
import VmResource.Proofs.PartFailure
import VmResource.Proofs.ErrorClosure
import VmResource.Proofs.Rebinding
import VmResource.Proofs.BootDisks
import VmResource.Proofs.Keys
import VmResource.Proofs.PartialPayload
import VmResource.Proofs.Edits
import VmResource.Proofs.OptionalKeys
import VmResource.Proofs.QualifiedLinks
import VmResource.Proofs.MessageFields
import VmResource.Proofs.MessageReading
import VmResource.Proofs.Construction
import VmResource.Proofs.NamedProjects
import VmResource.Proofs.Assembly
