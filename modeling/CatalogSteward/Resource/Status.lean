import CatalogSteward.Json.Shape
import CatalogSteward.Time.Rfc3339

/-!
# Status of a resource

What a resource reports: a display name, a phase, a message and when each was
last looked at. The transition time moves only when the phase does, and the
observed generation never falls.
-/

set_option autoImplicit false

namespace CatalogSteward

open Time

inductive Phase where
  | pending
  | ready
  | error
  | deleting
  deriving DecidableEq, Repr

namespace Phase

def all : List Phase :=
  [.pending, .ready, .error, .deleting]

def name : Phase → String
  | .pending => "PENDING"
  | .ready => "READY"
  | .error => "ERROR"
  | .deleting => "DELETING"

def ofJson? : Json → Option Phase :=
  Json.variant? (all.map fun phase => (phase.name, phase))

def shape : Json.Shape :=
  .choice (all.map name)

def toJson (phase : Phase) : Json :=
  .string phase.name

end Phase

structure Status where
  name : String
  phase : Phase
  message : Option String
  lastProbeTime : Option String
  lastPhaseTransitionTime : Option String
  observedGeneration : Option Int64
  deriving DecidableEq, Repr

def int64? (value : Json) : Option Int64 :=
  (Json.integerIn? (-9223372036854775808) 9223372036854775807 value).map Int64.ofInt

def int64Shape : Json.Shape :=
  .integer "i64" (-9223372036854775808) 9223372036854775807

def int64Json (number : Int64) : Json :=
  .integer number.toInt

def timestamp (now : Instant) : String :=
  now.rfc3339 .seconds

namespace Status

def blank : Status :=
  ⟨"", .pending, none, none, none, none⟩

def ofJson? (value : Json) : Option Status := do
  let record ← value.record? 6
  let name ← record.defaulted "" Json.string? 0 "name"
  let phase ← record.defaulted .pending Phase.ofJson? 1 "phase"
  let message ← record.optional Json.string? 2 "message"
  let lastProbeTime ← record.optional Json.string? 3 "lastProbeTime"
  let lastPhaseTransitionTime ← record.optional Json.string? 4 "lastPhaseTransitionTime"
  let observedGeneration ← record.optional int64? 5 "observedGeneration"
  pure ⟨name, phase, message, lastProbeTime, lastPhaseTransitionTime, observedGeneration⟩

def shape : Json.Shape :=
  .record "ManagedStatus"
    [("name", .free, .string), ("phase", .free, Phase.shape),
      ("message", .free, .optional .string), ("lastProbeTime", .free, .optional .string),
      ("lastPhaseTransitionTime", .free, .optional .string),
      ("observedGeneration", .free, .optional int64Shape)]

def fixedMembers (status : Status) : List (String × Json) :=
  [("name", .string status.name), ("phase", status.phase.toJson)]

def toJson (status : Status) : Json :=
  .object
    (status.fixedMembers ++
      Json.optionalMember "message" .string status.message ++
      Json.optionalMember "lastProbeTime" .string status.lastProbeTime ++
      Json.optionalMember "lastPhaseTransitionTime" .string status.lastPhaseTransitionTime ++
      Json.optionalMember "observedGeneration" int64Json status.observedGeneration)

/-- The fields that are left out where they are absent. -/
def optionalFields : List String :=
  ["message", "lastProbeTime", "lastPhaseTransitionTime", "observedGeneration"]

/-- The merge patch that replaces the status of a resource: what is absent is written as
`null`, so that merging removes what was there. -/
def patch (status : Status) : Json :=
  .object [("status", .object (Json.withNulls optionalFields status.toJson.members))]

def pending (now : Instant) : Status :=
  { blank with lastPhaseTransitionTime := some (timestamp now) }

/-- The greater of two generations, where an absent one counts for nothing. -/
def latestGeneration : Option Int64 → Option Int64 → Option Int64
  | some observed, some current => some (if observed < current then current else observed)
  | some observed, none => some observed
  | none, current => current

def probe (existing : Option Status) (name : String) (generation : Option Int64)
    (now : Instant) : Status :=
  let status := existing.getD (pending now)
  { status with
    name := name
    lastProbeTime := some (timestamp now)
    observedGeneration := latestGeneration status.observedGeneration generation }

/-- The status in the given phase; the transition time moves when the phase does, or when
there was none. -/
def setPhase (status : Status) (phase : Phase) (now : Instant) : Status :=
  if status.phase ≠ phase ∨ status.lastPhaseTransitionTime = none then
    { status with phase := phase, lastPhaseTransitionTime := some (timestamp now) }
  else
    status

def setMessage (status : Status) (message : Option String) : Status :=
  { status with message := message }

/-- Whether a status reports nothing that the previous one did not. -/
def isUnchanged (previous : Option Status) (next : Status) : Bool :=
  match previous with
  | none => false
  | some status =>
      status.phase == next.phase && status.message == next.message &&
        status.name == next.name && status.observedGeneration == next.observedGeneration

end Status

end CatalogSteward
