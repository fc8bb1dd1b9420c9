import CloudSynth.Report.Basic
import CloudSynth.Sandbox.Clock

/-!
# Reports on sandboxes

What has happened in a sandbox since an earlier state of it.
-/

namespace CloudSynth

/-- What the caller of a deploy is told. -/
def DeployResult.report : DeployResult → Json
  | .ok () => .text "ok"
  | .error failure => failure.report

/-- A deploy that was started. -/
def DeployOptions.report (backend : BackendIdentifier) (options : DeployOptions) : Json :=
  .record [("backend", .text backend.print), ("profile", .optionalText options.profile),
    ("validate", .boolean options.validateSources),
    ("secretLastUpdated", .optional .integer options.secretLastUpdated)]

namespace Sandbox

/-- The events since an earlier state. -/
def recent (before after : Sandbox) : List ExecutorEvent :=
  after.executor.history.drop before.executor.history.length

/-- The requests that have got their result since an earlier state, in the order of the requests. -/
def finished (before after : Sandbox) : List (Nat × DeployResult) :=
  (List.range after.executor.tickets).filterMap fun ticket =>
    match before.executor.received? ticket, after.executor.received? ticket with
    | none, some result => some (ticket, result)
    | _, _ => none

/-- The deploys that were started, by backend. -/
def startedIn (events : List ExecutorEvent) : List (BackendIdentifier × DeployOptions) :=
  events.filterMap fun
    | .started batch options => some (batch.latest.backend, options)
    | _ => none

/-- The backends whose secrets were asked for. -/
def listedIn (events : List ExecutorEvent) : List BackendIdentifier :=
  events.filterMap fun
    | .listed backend => some backend
    | _ => none

/-- How many validations were called. -/
def validationsIn (events : List ExecutorEvent) : Nat :=
  events.countP fun
    | .validated _ => true
    | _ => false

/-- What has happened since an earlier state, given the names of requests and the result of the
action in between. -/
def report (before after : Sandbox) (nameOf : Nat → String) (result : Json) : Json :=
  let events := recent before after
  .record [("result", result), ("busy", .boolean after.executor.running),
    ("finished", .list ((finished before after).map fun pair =>
      .list [.text (nameOf pair.1), DeployResult.report pair.2])),
    ("started", .list ((startedIn events).map fun pair => pair.2.report pair.1)),
    ("listed", .texts ((listedIn events).map BackendIdentifier.print)),
    ("destroyed", .texts ((after.destroyed.drop before.destroyed.length).map
      BackendIdentifier.print)),
    ("validations", .natural (validationsIn after.executor.history)),
    ("waiting", .natural after.executor.waiting.length)]

end Sandbox

end CloudSynth
