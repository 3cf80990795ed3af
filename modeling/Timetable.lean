import Timetable.Main
import Timetable.Zone.Named
import Timetable.Proofs.Chain.Consistent
import Timetable.Proofs.Chain.Final
import Timetable.Proofs.Chain.Settlement
import Timetable.Proofs.Runs.Walk
import Timetable.Proofs.Trigger.OneShot
import Timetable.Proofs.Chain.Tended
import Timetable.Proofs.Zone.Taken
import Timetable.Proofs.Runs.Least
import Timetable.Proofs.Chain.Firing
import Timetable.Proofs.Chain.Rearmed
import Timetable.Proofs.Chain.Forward
import Timetable.Proofs.Cron.Grammar
import Timetable.Proofs.Cron.RoundTrip
import Timetable.Proofs.Chain.Drained
import Timetable.Proofs.Rule.Generation
import Timetable.Proofs.Runs.Safe
import Timetable.Proofs.Config.Registered
import Timetable.Proofs.Chain.Recorded
import Timetable.Proofs.Chain.Books
import Timetable.Proofs.Chain.Told
import Timetable.Proofs.Machine.Unread
import Timetable.Proofs.Chain.Audited
import Timetable.Proofs.Field.Grammar
import Timetable.Proofs.Rule.Accepted
import Timetable.Proofs.Cron.Union
import Timetable.Proofs.Chain.Enrolled
import Timetable.Proofs.Chain.Passage
import Timetable.Proofs.Chain.Restarted
import Timetable.Proofs.Zone.Gap
import Timetable.Proofs.Calendar.Week
import Timetable.Proofs.Chain.Refused
import Timetable.Proofs.Daemon.Ends
import Timetable.Proofs.Cron.Accepted
