import ActivityForge.Blueprint
import ActivityForge.Json.Value
import ActivityForge.Source.Signature

/-!
# Summaries

What there is to know about a blueprint at a glance, as members of a JSON object.  Members come in
the order of their keys.
-/

namespace ActivityForge.CommandLine

open Json (Value)

def summaryOfModel (m : Model) : Value :=
  .object [
    ("fields", .list (m.fields.map fun f => .text f.originalName)),
    ("generated", .bool !m.fields.isEmpty),
    ("name", .text m.name.pascal)]

def summaryOfPolicy (p : RetryPolicy) : Value :=
  .object [
    ("backoff_coefficient", .number (.float (.ofScientific p.backoffTenths true 1))),
    ("initial_interval_secs", .number (.int p.initialIntervalSecs)),
    ("maximum_attempts", .number (.int p.maximumAttempts)),
    ("maximum_interval_secs", .number (.int p.maximumIntervalSecs))]

def summaryOfActivity (a : Activity) : Value :=
  .object [
    ("client", .text a.clientModule),
    ("deprecated", .bool a.deprecated),
    ("idempotent", .bool a.idempotent),
    ("method", .text a.method.text),
    ("name", .text a.name.original),
    ("parameters", .list (a.parameters.map fun p => .text p.originalName)),
    ("path", .text a.path),
    ("request_object", if a.usesRequest then .text a.requestName else .null),
    ("retry", summaryOfPolicy a.retryPolicy),
    ("returns", .text a.resultText)]

/-- The members of the summary of a blueprint. -/
def summary (b : Blueprint) : List (String × Value) := [
  ("info", .object [("title", .text b.info.title), ("version", .text b.info.version)]),
  ("models", .list (b.models.map summaryOfModel)),
  ("operations", .list (b.activities.map summaryOfActivity))]

end ActivityForge.CommandLine
