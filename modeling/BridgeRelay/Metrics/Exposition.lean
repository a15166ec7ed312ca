import BridgeRelay.Binary64.Text
import BridgeRelay.Metrics

/-!
# Text exposition

All series as text: families sorted by name, and the series of a family by the values of its labels.
-/

namespace BridgeRelay.Metrics

/-- How a family is described. -/
structure Description where
  name : String
  help : String
  /-- the kind of values -/
  kind : String
  /-- the names of the labels, in the order of their values -/
  labels : List String

/-- The description of a family. -/
def Family.description : Family → Description
  | .depositsDetected =>
      ⟨"relayer_deposits_detected_total", "Total number of deposit events detected", "counter", ["chain"]⟩
  | .messagesRouted =>
      ⟨"relayer_messages_routed_total", "Messages delivered to a destination writer", "counter",
        ["source", "destination"]⟩
  | .messagesDropped =>
      ⟨"relayer_messages_dropped_total", "Messages dropped before reaching a writer", "counter",
        ["chain", "reason"]⟩
  | .votesSubmitted =>
      ⟨"relayer_votes_submitted_total", "Vote transactions confirmed", "counter", ["chain"]⟩
  | .executionsSubmitted =>
      ⟨"relayer_executions_submitted_total", "Execute transactions confirmed", "counter", ["chain"]⟩
  | .txRetries =>
      ⟨"relayer_tx_retries_total", "Transaction attempts retried", "counter", ["chain", "class"]⟩
  | .errors => ⟨"relayer_errors_total", "Total number of reported errors", "counter", ["chain", "type"]⟩
  | .lastCheckpoint => ⟨"relayer_last_checkpoint", "Last block fully processed", "gauge", ["chain"]⟩
  | .latestBlock => ⟨"relayer_latest_block", "Latest chain head observed", "gauge", ["chain"]⟩

/-- The description of the value that tells whether the relay runs. -/
def upDescription : Description := ⟨"relayer_up", "Whether the relayer is running", "gauge", []⟩

/-- The families with their series, sorted by name. -/
def families : List Family :=
  [.depositsDetected, .errors, .executionsSubmitted, .lastCheckpoint, .latestBlock, .messagesDropped,
   .messagesRouted, .txRetries, .votesSubmitted]

/-- The values of the labels with their names, sorted by name. -/
def Description.pairs (d : Description) (labels : Labels) : List (String × String) :=
  (d.labels.zip labels).mergeSort fun a b => a.1 ≤ b.1

/-- Escapes backslashes, line ends and double quotes. -/
def escape (s : String) : String :=
  String.ofList (s.toList.flatMap fun c =>
    if c = '\\' then ['\\', '\\'] else if c = '\n' then ['\\', 'n'] else if c = '"' then ['\\', '"'] else [c])

/-- A value as text. -/
def valueText (v : Int) : String := (Binary64.ofInt v).text

/-- One series as a line. -/
def line (name : String) (pairs : List (String × String)) (value : Int) : String :=
  let labels := pairs.map fun p => p.1 ++ "=\"" ++ escape p.2 ++ "\""
  let braces := if labels.isEmpty then "" else "\x7b" ++ ",".intercalate labels ++ "\x7d"
  name ++ braces ++ " " ++ valueText value

/-- Whether the first list of label values comes before the second or is equal to it. -/
def valuesLE : List (String × String) → List (String × String) → Bool
  | (_, a) :: as, (_, b) :: bs => if a = b then valuesLE as bs else a < b
  | [], _ => true
  | _ :: _, [] => false

/-- The lines that describe a family. -/
def headLines (d : Description) : List String :=
  [s!"# HELP {d.name} {d.help}", s!"# TYPE {d.name} {d.kind}"]

/-- The lines of a family; none if it has no series. -/
def familyLines (m : Metrics) (f : Family) : List String :=
  let d := f.description
  let rows := (m.series.filter fun s => s.family = f).map fun s => (d.pairs s.labels, s.value)
  if rows.isEmpty then []
  else headLines d ++
    (rows.mergeSort fun a b => valuesLE a.1 b.1).map fun row => line d.name row.1 row.2

/-- All lines. -/
def lines (m : Metrics) : List String :=
  let (before, after) := families.partition fun f => f.description.name < upDescription.name
  before.flatMap (familyLines m) ++ headLines upDescription ++ [line upDescription.name [] m.up]
    ++ after.flatMap (familyLines m)

/-- The text of all series. -/
def exposition (m : Metrics) : String := String.join (m.lines.map (· ++ "\n"))

/-- The media type of the text. -/
def mediaType : String := "text/plain; version=0.0.4"

/-- The lines that carry a value. -/
def samples (m : Metrics) : List String := m.lines.filter fun l => !l.startsWith "#"

end BridgeRelay.Metrics
