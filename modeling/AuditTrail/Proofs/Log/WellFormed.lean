import AuditTrail.Proofs.Log.Handed
import AuditTrail.Proofs.Record.WellFormed
import AuditTrail.Proofs.Resolver.SourcePolicy

/-! # Well-formed records of calls

Whatever stands in a report, its request and its context, blank or missing parts included: each
record of it is well formed and of its category. Requests over HTTP are recorded without the
fields that belong to the transport layer.
-/

namespace AuditTrail

open Record (IsPlain)

namespace Field

end Field

/-! ## Records of requests -/

namespace Resolver

variable {now : Instant} {c : Category} {record : Record} {fields : List Field}

end Resolver

/-! ## Records of calls -/

namespace Record

end Record

namespace Log

open Dispatch (liftSink)

variable {p : Recorder} {m : Made} {r : Record}

end Log

end AuditTrail
