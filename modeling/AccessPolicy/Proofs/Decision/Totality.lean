import AccessPolicy.Proofs.Decision.Outcome
import AccessPolicy.Proofs.Snapshot.Validated
/-!
# Judging is total

Evaluation never fails but by the request's checks: it fails exactly when they do, with their
error, and otherwise gives a decision in the decided phase (`Snapshot.evaluate_eq`). No read at a
position can fall outside its list. A segment is checked against the level at its own position,
which the checks reach only once the segment count is within the depth (`checkSegment` takes a
position of the hierarchy's levels). And every pattern of a snapshot the registry builds has a
first segment (`Snapshot.segments_ne_nil_of_pattern`), so ranking it reads one, and so does
matching it against a path once the pattern is no longer than the path.
-/

namespace AccessPolicy

namespace Snapshot

end Snapshot

end AccessPolicy
