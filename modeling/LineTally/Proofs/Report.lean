import LineTally.Proofs.Json.RoundTrip
import LineTally.Proofs.Time.RoundTrip
import LineTally.Report.Json

/-!
# A report survives its JSON text

A report is written as JSON and can be read back from it with everything it says: any number of
workers, any counts, an error in any words, and the end of the run in any year and to the
billionth of a second.
-/

namespace LineTally

open Json

/-! ## Values that come back -/

@[simp] theorem Json.decodeCount_ofNat (wanted : String) (count : Count) :
    (Json.ofNat count.toNat).decodeCount wanted = .ok count :=
  Shape.toCount_ofNat wanted count

@[simp] theorem Json.decodeBool_bool (value : Bool) : (Json.bool value).decodeBool = .ok value :=
  rfl

@[simp] theorem Time.decode_render (time : Timestamp) :
    Time.decode (.string (Time.render time)) = .ok time := by
  rw [Time.decode, Time.parse_render]

/-- A text that may be absent comes back. -/
theorem Json.decodeOption_text (text : Option String) :
    ((text.map Json.string).getD .null).decodeOption Json.decodeString = .ok text := by
  cases text <;> rfl

/-- A list comes back if its items do. -/
theorem Json.decodeList_map {α : Type} {encode : α → Json} {decode : Json → Except Mismatch α}
    (back : ∀ item, decode (encode item) = .ok item) (items : List α) :
    (Json.array (items.map encode)).decodeList decode = .ok items := by
  rw [decodeList]
  induction items with
  | nil => rfl
  | cons item items ih =>
      rw [List.map_cons, List.mapM_cons, back, ih]
      rfl

/-! ## Structures that come back -/

/-- An object is read part by part, in the order of their names. -/
theorem Json.Record.decode_object {δ α : Type} (record : Record δ α)
    {members sorted : List (String × Json)} (order : sortMembers members = sorted) :
    record.decode (.object members) =
      (sorted.foldlM (fun draft member => record.set draft member.1 member.2) record.blank >>=
        record.finish) := by
  rw [decode, order]

/-- A worker's tally comes back. -/
theorem WorkerTally.ofJson_toJson (tally : WorkerTally) :
    WorkerTally.ofJson tally.toJson = .ok tally := by
  have order (index matched consumed failed : Json) :
      sortMembers [("index", index), ("matched", matched), ("consumed", consumed),
        ("failed", failed)] =
      [("consumed", consumed), ("failed", failed), ("index", index), ("matched", matched)] := by
    simp only [sortMembers, insertMember, List.foldl_cons, List.foldl_nil, String.reduceLT,
      String.reduceEq, reduceIte]
  rw [ofJson, toJson, Record.decode_object record (order _ _ _ _)]
  simp [record, require, bind, Except.bind, pure, Except.pure]

/-- A tally comes back. -/
theorem Tally.ofJson_toJson (tally : Tally) : Tally.ofJson tally.toJson = .ok tally := by
  have workers : (Json.array (tally.workers.map WorkerTally.toJson)).decodeList
      WorkerTally.record.decode = .ok tally.workers :=
    Json.decodeList_map WorkerTally.ofJson_toJson tally.workers
  have order (total workers : Json) :
      sortMembers [("total", total), ("workers", workers)] =
        [("total", total), ("workers", workers)] := by
    simp only [sortMembers, insertMember, List.foldl_cons, List.foldl_nil, String.reduceLT,
      String.reduceEq, reduceIte]
  rw [ofJson, toJson, Record.decode_object record (order _ _)]
  simp [record, workers, require, bind, Except.bind, pure, Except.pure]

/-- A report comes back. -/
theorem Report.ofJson_toJson (report : Report) : Report.ofJson report.toJson = .ok report := by
  have tally : Tally.record.decode report.tally.toJson = .ok report.tally :=
    report.tally.ofJson_toJson
  have error := Json.decodeOption_text report.sourceError
  have order (tally linesRead produced cancelled error elapsed finished : Json) :
      sortMembers [("tally", tally), ("lines_read", linesRead), ("produced", produced),
        ("cancelled", cancelled), ("source_error", error), ("elapsed_ms", elapsed),
        ("finished_at", finished)] =
      [("cancelled", cancelled), ("elapsed_ms", elapsed), ("finished_at", finished),
        ("lines_read", linesRead), ("produced", produced), ("source_error", error),
        ("tally", tally)] := by
    simp only [sortMembers, insertMember, List.foldl_cons, List.foldl_nil, String.reduceLT,
      String.reduceEq, reduceIte]
  rw [ofJson, toJson, Record.decode_object record (order _ _ _ _ _ _ _)]
  simp [record, tally, error, require, bind, Except.bind, pure, Except.pure]

/-! ## Texts that come back -/

theorem Json.plain_ofNat (count : Count) : Plain (.ofNat count.toNat) := by
  refine .number ⟨?_, ?_⟩
  · omega
  · exact Int.ofNat_lt.mpr count.toNat_lt

/-- Whatever a worker's tally says can be read back from its text. -/
theorem WorkerTally.plain_toJson (tally : WorkerTally) : Plain tally.toJson := by
  refine .object fun member among => ?_
  simp only [List.mem_cons, List.not_mem_nil, or_false] at among
  rcases among with rfl | rfl | rfl | rfl
  · exact plain_ofNat _
  · exact plain_ofNat _
  · exact plain_ofNat _
  · exact .bool _

theorem Tally.plain_toJson (tally : Tally) : Plain tally.toJson := by
  refine .object fun member among => ?_
  simp only [List.mem_cons, List.not_mem_nil, or_false] at among
  rcases among with rfl | rfl
  · exact plain_ofNat _
  · refine .array fun item listed => ?_
    rcases List.mem_map.mp listed with ⟨worker, -, rfl⟩
    exact worker.plain_toJson

theorem Report.plain_toJson (report : Report) : Plain report.toJson := by
  refine .object fun member among => ?_
  simp only [List.mem_cons, List.not_mem_nil, or_false] at among
  rcases among with rfl | rfl | rfl | rfl | rfl | rfl | rfl
  · exact report.tally.plain_toJson
  · exact plain_ofNat _
  · exact plain_ofNat _
  · exact .bool _
  · cases report.sourceError with
    | none => exact .null
    | some error => exact .string error
  · exact plain_ofNat _
  · exact .string _

/-- The text of a report stands for the value that it was written from. -/
theorem Report.parse_json (report : Report) : Json.parse report.json = some report.toJson :=
  Json.parse_pretty report.plain_toJson

/-- A report is read back from its text with everything it says.  So no two reports have the same
text, and what was read back is written in the same way again. -/
theorem Report.json_round_trips :
    (∀ report : Report, ∃ value, Json.parse report.json = some value ∧
      Report.ofJson value = .ok report) ∧
    (∀ left right : Report, left.json = right.json → left = right) ∧
    ∀ (report read : Report) (value : Json), Json.parse report.json = some value →
      Report.ofJson value = .ok read → read.json = report.json := by
  have back (report : Report) : (Json.parse report.json).map Report.ofJson = some (.ok report) := by
    rw [report.parse_json, Option.map_some, report.ofJson_toJson]
  refine ⟨fun report => ⟨report.toJson, report.parse_json, report.ofJson_toJson⟩, ?_, ?_⟩
  · intro left right same
    have both := back left
    rw [same, back right] at both
    exact (Except.ok.inj (Option.some.inj both)).symm
  · intro report read value parsed decoded
    have both := back report
    rw [parsed, Option.map_some, decoded] at both
    rw [Except.ok.inj (Option.some.inj both)]

/-- A report of an error with quotes and control characters, at the sixtieth second of a minute of a
year before the first; a report of a second earlier is another text. -/
theorem Report.json_round_trips_of_leap_second :
    let finished (second : Nat) (second_le : second ≤ 60) : Timestamp := {
      date := ⟨-12, 12, 31⟩, hour := 23, minute := 59, second, nano := 500000000
      date_valid := by decide, hour_lt := by decide, minute_lt := by decide, second_le
      nano_lt := by decide }
    let report (second : Nat) (second_le : second ≤ 60) : Report := {
      tally := { total := 1, workers := [⟨0, 1, 1, false⟩, ⟨1, 0, 0, true⟩] }
      linesRead := 1, produced := 1, cancelled := true
      sourceError := some "\"\\\x01\x02\n", elapsedMs := 0, finishedAt := finished second second_le }
    Time.render (finished 60 (by decide)) = "-0012-12-31T23:59:60.500Z" ∧
      (∃ value, Json.parse (report 60 (by decide)).json = some value ∧
        Report.ofJson value = .ok (report 60 (by decide)) ∧
        ∀ read, Report.ofJson value = .ok read → read.json = (report 60 (by decide)).json) ∧
      (report 60 (by decide)).json ≠ (report 59 (by decide)).json := by
  intro finished report
  refine ⟨by decide, ?_, ?_⟩
  · rcases json_round_trips.1 (report 60 (by decide)) with ⟨value, parsed, decoded⟩
    exact ⟨value, parsed, decoded, fun read again =>
      json_round_trips.2.2 _ read value parsed again⟩
  · intro same
    exact absurd (json_round_trips.2.1 _ _ same) (by decide)

end LineTally
