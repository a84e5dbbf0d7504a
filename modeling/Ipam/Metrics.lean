import Ipam.Net.Target
import Ipam.Operation
import Ipam.Table

/-!
# Metrics and probes

The controller counts outcomes and status writes, and tells over HTTP whether it is alive and ready.

* `Metrics` — the counters and the readiness.
* `Metrics.render` — the counters as text, the way a scraper reads them.
* `Metrics.respond` — the answer to an HTTP request.
-/

namespace Ipam

/-- What became of an attempt to write a status. -/
inductive WriteResult where
  /-- The status was written. -/
  | patched
  /-- The status reflected the outcome already. -/
  | unchanged
  /-- The resource is gone. -/
  | missing
  /-- The cluster refused. -/
  | error
deriving DecidableEq

/-- The name of a result in the counters. -/
def WriteResult.label : WriteResult → String
  | .patched => "patched"
  | .unchanged => "unchanged"
  | .missing => "missing"
  | .error => "error"

/-- The counters and the readiness of a controller. -/
structure Metrics where
  /-- The number of outcomes, by kind of operation and success. -/
  results : OperationKind → Bool → Nat := fun _ _ => 0
  /-- The number of status writes, by the name of the result. -/
  writes : Table Nat := .empty
  /-- Whether the first listing is complete. -/
  ready : Bool := false

/-- An answer to an HTTP request. -/
structure HttpAnswer where
  status : Nat
  contentType : Option String
  body : String
deriving DecidableEq

namespace Metrics

/-! ## Counting -/

/-- Counts an outcome. -/
def countOutcome (m : Metrics) (o : Outcome) : Metrics :=
  { m with
    results := fun kind success =>
      m.results kind success
        + if kind = o.operation.kind ∧ success = o.isSuccess then 1 else 0 }

/-- Counts a status write by the name of its result. -/
def countWrite (m : Metrics) (label : String) : Metrics :=
  { m with writes := m.writes.insert label ((m.writes.get? label).getD 0 + 1) }

/-! ## The text for scrapers -/

/-- A character of a label value: backslashes, quotes and line ends are escaped. -/
def escapeChar : Char → List Char
  | '\\' => ['\\', '\\']
  | '"' => ['\\', '"']
  | '\n' => ['\\', 'n']
  | c => [c]

/-- One label of a counter. -/
def label (name value : String) : String :=
  name ++ "=\"" ++ String.ofList (value.toList.flatMap escapeChar) ++ "\""

/-- One counter. -/
def line (name : String) (labels : List String) (count : Nat) : String :=
  name ++ "\x7b" ++ ",".intercalate labels ++ "\x7d " ++ toString count

/-- The counters of outcomes that are not zero, in the order of their labels. -/
def resultLines (m : Metrics) : List String :=
  [(OperationKind.create, false), (.create, true), (.delete, false), (.delete, true)].filterMap
    fun (kind, success) =>
      let labels :=
        [label "operation" (toString kind),
          label "outcome" (if success then "success" else "failure")]
      match m.results kind success with
      | 0 => none
      | count => some (line "ipam_results_total" labels count)

/-- The counters of status writes, in the order of their labels. -/
def writeLines (m : Metrics) : List String :=
  m.writes.entries.map fun (outcome, count) =>
    line "ipam_status_updates_total" [label "outcome" outcome] count

/-- A family of counters with what it counts; one without counters is left out. -/
def family (name help : String) (lines : List String) : List String :=
  if lines.isEmpty then []
  else s!"# HELP {name} {help}" :: s!"# TYPE {name} counter" :: lines

/-- The lines of the text. -/
def lines (m : Metrics) : List String :=
  family "ipam_results_total" "Allocation results by operation and outcome" m.resultLines
    ++ family "ipam_status_updates_total" "IPAM status writes by outcome" m.writeLines

/-- The lines of the text that are not comments. -/
def counters (m : Metrics) : List String :=
  m.resultLines ++ m.writeLines

/-- The text. -/
def render (m : Metrics) : String :=
  String.join (m.lines.map (· ++ "\n"))

/-- The readiness as it is shown in logs. -/
def describe (m : Metrics) : String :=
  s!"Metrics \x7b ready: {m.ready}, .. \x7d"

/-! ## Probes -/

/-- A plain text as an answer. -/
def plain (status : Nat) (body : String) : HttpAnswer :=
  ⟨status, some "text/plain; charset=utf-8", body⟩

/-- The answer at a path that is served. -/
def page? (m : Metrics) (target : String) : Option HttpAnswer :=
  match Target.path? target with
  | some "/metrics" => some ⟨200, some "text/plain; version=0.0.4; charset=utf-8", m.render⟩
  | some "/healthz" => some (plain 200 "ok")
  | some "/readyz" => some (if m.ready then plain 200 "ready" else plain 503 "not ready")
  | _ => none

/-- The answer to a request.  Pages can be fetched, with or without their bodies, and nothing else.
-/
def respond (m : Metrics) (method target : String) : HttpAnswer :=
  match m.page? target with
  | none => ⟨404, none, ""⟩
  | some page =>
    if method = "GET" then page
    else if method = "HEAD" then { page with body := "" }
    else ⟨405, none, ""⟩

end Metrics

end Ipam
