import LineTally.Json.Decode
import LineTally.Json.Printer
import LineTally.Report.Basic
import LineTally.Time.Rfc3339

/-!
# Reports in JSON

Writing a report as JSON, and reading it back.
-/

namespace LineTally

/-- A worker's tally in JSON. -/
def WorkerTally.toJson (tally : WorkerTally) : Json :=
  .object [("index", .ofNat tally.index.toNat), ("matched", .ofNat tally.matched.toNat),
    ("consumed", .ofNat tally.consumed.toNat), ("failed", .bool tally.failed)]

/-- A tally in JSON. -/
def Tally.toJson (tally : Tally) : Json :=
  .object [("total", .ofNat tally.total.toNat),
    ("workers", .array (tally.workers.map WorkerTally.toJson))]

/-- A report in JSON. -/
def Report.toJson (report : Report) : Json :=
  .object [("tally", report.tally.toJson),
    ("lines_read", .ofNat report.linesRead.toNat),
    ("produced", .ofNat report.produced.toNat),
    ("cancelled", .bool report.cancelled),
    ("source_error", (report.sourceError.map .string).getD .null),
    ("elapsed_ms", .ofNat report.elapsedMs.toNat),
    ("finished_at", .string (Time.render report.finishedAt))]

/-- The JSON text of a report. -/
def Report.json (report : Report) : String :=
  report.toJson.pretty

/-- What is known of a worker's tally while it is read. -/
structure WorkerTally.Draft where
  index : Option Count := none
  matched : Option Count := none
  consumed : Option Count := none
  failed : Option Bool := none

/-- How a worker's tally is read. -/
def WorkerTally.record : Json.Record WorkerTally.Draft WorkerTally where
  name := "WorkerTally"
  parts := ["index", "matched", "consumed", "failed"]
  blank := {}
  set draft part value := match part with
    | "index" => do return { draft with index := some (← value.decodeCount "usize") }
    | "matched" => do return { draft with matched := some (← value.decodeCount "u64") }
    | "consumed" => do return { draft with consumed := some (← value.decodeCount "u64") }
    | "failed" => do return { draft with failed := some (← value.decodeBool) }
    | _ => return draft
  finish draft := do
    let index ← Json.require "index" draft.index
    let matched ← Json.require "matched" draft.matched
    let consumed ← Json.require "consumed" draft.consumed
    let failed ← Json.require "failed" draft.failed
    return { index, matched, consumed, failed }

/-- What is known of a tally while it is read. -/
structure Tally.Draft where
  total : Option Count := none
  workers : Option (List WorkerTally) := none

/-- How a tally is read. -/
def Tally.record : Json.Record Tally.Draft Tally where
  name := "Tally"
  parts := ["total", "workers"]
  blank := {}
  set draft part value := match part with
    | "total" => do return { draft with total := some (← value.decodeCount "u64") }
    | "workers" => do
      return { draft with workers := some (← value.decodeList WorkerTally.record.decode) }
    | _ => return draft
  finish draft := do
    let total ← Json.require "total" draft.total
    let workers ← Json.require "workers" draft.workers
    return { total, workers }

/-- Reads a time. -/
def Time.decode : Json → Except Mismatch Timestamp
  | .string text =>
    match Time.parse text with
    | .ok time => .ok time
    | .error flaw => .error (.other flaw.message)
  | value => .error (.kind value.shape "an RFC 3339 formatted date and time string")

/-- What is known of a report while it is read. -/
structure Report.Draft where
  tally : Option Tally := none
  linesRead : Option Count := none
  produced : Option Count := none
  cancelled : Option Bool := none
  sourceError : Option String := none
  elapsedMs : Option Count := none
  finishedAt : Option Timestamp := none

/-- How a report is read. -/
def Report.record : Json.Record Report.Draft Report where
  name := "ScanReport"
  parts := ["tally", "lines_read", "produced", "cancelled", "source_error", "elapsed_ms",
    "finished_at"]
  blank := {}
  set draft part value := match part with
    | "tally" => do return { draft with tally := some (← Tally.record.decode value) }
    | "lines_read" => do return { draft with linesRead := some (← value.decodeCount "u64") }
    | "produced" => do return { draft with produced := some (← value.decodeCount "u64") }
    | "cancelled" => do return { draft with cancelled := some (← value.decodeBool) }
    | "source_error" => do
      return { draft with sourceError := ← value.decodeOption Json.decodeString }
    | "elapsed_ms" => do return { draft with elapsedMs := some (← value.decodeCount "u64") }
    | "finished_at" => do return { draft with finishedAt := some (← Time.decode value) }
    | _ => return draft
  finish draft := do
    let tally ← Json.require "tally" draft.tally
    let linesRead ← Json.require "lines_read" draft.linesRead
    let produced ← Json.require "produced" draft.produced
    let cancelled ← Json.require "cancelled" draft.cancelled
    let elapsedMs ← Json.require "elapsed_ms" draft.elapsedMs
    let finishedAt ← Json.require "finished_at" draft.finishedAt
    return {
      tally, linesRead, produced, cancelled, elapsedMs, finishedAt
      sourceError := draft.sourceError }

/-- Reads a worker's tally. -/
def WorkerTally.ofJson (value : Json) : Except Mismatch WorkerTally :=
  WorkerTally.record.decode value

/-- Reads a tally. -/
def Tally.ofJson (value : Json) : Except Mismatch Tally :=
  Tally.record.decode value

/-- Reads a report. -/
def Report.ofJson (value : Json) : Except Mismatch Report :=
  Report.record.decode value

end LineTally
