import Recurrence.Occurrence.Index
import Recurrence.Offset.Reader
import Recurrence.DateTime.Fields
import Recurrence.Period.Reader
import Recurrence.Rule.Reader
import Recurrence.Settings
import Recurrence.Zone.Atlas
import Recurrence.Zone.Resolver
import Recurrence.Proofs.Rule.Meaning
import Recurrence.Proofs.Rule.Slice
import Recurrence.Proofs.Occurrence.SetAlgebra
import Recurrence.Proofs.Zone.Steady
import Recurrence.Proofs.Occurrence.Clean
import Recurrence.Proofs.Rule.Ending
import Recurrence.Proofs.Occurrence.Merge
import Recurrence.Proofs.Occurrence.Restrict
import Recurrence.Proofs.Occurrence.Override
import Recurrence.Proofs.Calendar.Cycle
import Recurrence.Proofs.Rule.Cycle
import Recurrence.Proofs.Rule.GiveUp
import Recurrence.Proofs.Rule.Zoned
import Recurrence.Proofs.Occurrence.Extent
import Recurrence.Proofs.Occurrence.Window
import Recurrence.Proofs.Occurrence.Elapsed
import Recurrence.Proofs.Zone.Inverse
import Recurrence.Proofs.Rule.Loop
import Recurrence.Proofs.Zone.Transitions
import Recurrence.Proofs.Period.Forms
import Recurrence.Proofs.Occurrence.Exclude
import Recurrence.Proofs.Occurrence.Isolate
import Recurrence.Proofs.Zone.History
import Recurrence.Proofs.Calendar.Week
import Recurrence.Proofs.Rule.Days
import Recurrence.Proofs.Rule.Text
import Recurrence.Proofs.Rule.Jump
import Recurrence.Proofs.Rule.DaySkips
import Recurrence.Proofs.Zone.Latest
import Recurrence.Proofs.Zone.Scan
import Recurrence.Proofs.Zone.Greatest
import Recurrence.Proofs.Duration.Text
import Recurrence.Proofs.Offset.Text
import Recurrence.Proofs.Rule.Legal
import Recurrence.Proofs.Rule.Parts
import Recurrence.Proofs.Occurrence.RuleFailures
import Recurrence.Proofs.DateTime.Reversal
import Recurrence.Proofs.Machine.Run
