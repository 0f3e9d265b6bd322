/-!
What a server counts over all its connections, and how the counts are published: as lines of text
or as one JSON object, both sorted by name.
-/
namespace MailIntake

structure Counters where
  bytesRead : Nat := 0
  bytesWritten : Nat := 0
  /-- Connections that were admitted. -/
  transactions : Nat := 0
  /-- Messages that the handlers took over. -/
  messages : Nat := 0
  /-- Connections that were turned away because the server was full. -/
  busy : Nat := 0
  /-- Connections that were admitted and have not ended. -/
  active : Int := 0
deriving DecidableEq, Repr

inductive MetricKind
  /-- It only grows. -/
  | counter
  | gauge
deriving DecidableEq, Repr

def MetricKind.render : MetricKind → String
  | .counter => "counter"
  | .gauge => "gauge"

structure Metric where
  name : String
  help : String
  kind : MetricKind
  value : Int
deriving DecidableEq, Repr

def Metric.render (m : Metric) : String :=
  "# HELP " ++ m.name ++ " " ++ m.help ++ "\n# TYPE " ++ m.name ++ " " ++ m.kind.render ++ "\n"
    ++ m.name ++ " " ++ toString m.value ++ "\n"

/-- A published count as a member of a JSON object.  Names and helps need no escapes. -/
def Metric.renderMember (m : Metric) : String :=
  "\"" ++ m.name ++ "\":\x7b\"help\":\"" ++ m.help ++ "\",\"type\":\"" ++ m.kind.render
    ++ "\",\"value\":" ++ toString m.value ++ ".0\x7d"

namespace Counters

/-- The published counts, sorted by name. -/
def metrics (c : Counters) : List Metric := [
  ⟨"smtp_active_transactions", "number of transactions currently being served", .gauge, c.active⟩,
  ⟨"smtp_bytes_read_total", "total number of bytes received from clients", .counter,
    c.bytesRead⟩,
  ⟨"smtp_bytes_written_total", "total number of bytes sent to clients", .counter,
    c.bytesWritten⟩,
  ⟨"smtp_connections_rejected_busy_total",
    "total number of connections turned away because the server was full", .counter, c.busy⟩,
  ⟨"smtp_messages_accepted_total",
    "total number of messages accepted by the handler pipeline", .counter, c.messages⟩,
  ⟨"smtp_transactions_total", "total number of connections admitted and served", .counter,
    c.transactions⟩]

def render (c : Counters) : String :=
  String.join (c.metrics.map Metric.render)

def renderJson (c : Counters) : String :=
  "\x7b" ++ ",".intercalate (c.metrics.map Metric.renderMember) ++ "\x7d"

end Counters

structure HttpResponse where
  code : Nat
  reason : String
  body : String := ""
deriving DecidableEq, Repr

def HttpResponse.status (r : HttpResponse) : String :=
  toString r.code ++ " " ++ r.reason

/-- Answers a request: two pages can be read, under their exact paths and with any query. -/
def Counters.answer (c : Counters) (method target : String) : HttpResponse :=
  let path := String.ofList (target.toList.takeWhile fun ch => ch != '?')
  let page :=
    if path = "/metrics" then some c.render
    else if path = "/metrics.json" then some c.renderJson
    else none
  match page with
  | none => ⟨404, "Not Found", ""⟩
  | some text =>
      if method = "GET" then ⟨200, "OK", text⟩
      else if method = "HEAD" then ⟨200, "OK", ""⟩
      else ⟨405, "Method Not Allowed", ""⟩

end MailIntake
