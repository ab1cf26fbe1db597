import RecordQuery.Bridge.Backend
import RecordQuery.Proofs.Bridge.Framing
import RecordQuery.Proofs.Svg.Markup

/-!
# Both ways to aggregate agree

An aggregation through the texts of another program ends as the one that runs here: with the same
table or drawing, or with the error that kept it from starting.
-/

namespace RecordQuery

namespace Aggregator

/-- Lines are found where they were joined. -/
theorem fullLines_join {lines : List String} (single : ∀ line ∈ lines, '\n' ∉ line.toList)
    (trimmed : ∀ line ∈ lines, Text.Trimmed line.toList) :
    fullLines (String.join (lines.map (· ++ "\n"))) = lines := by
  have cut : Text.split '\n' (String.join (lines.map (· ++ "\n"))) = lines ++ [""] :=
    Text.split_join single
  have full : lines.filter (fun line => Text.trim line ≠ "") = lines :=
    List.filter_eq_self.mpr fun line hline => by
      simpa using Text.trim_ne_empty (trimmed line hline).solid
  rw [fullLines, cut, List.filter_append, full]
  exact List.append_nil lines

/-- The lines that a backend sends. -/
theorem fullLines_input (init : AggregationInit) (records : List Record) :
    fullLines (Backend.input init records)
      = (init.toValue :: records.map Value.obj).map (·.text) := by
  have joined : Backend.input init records
      = String.join (((init.toValue :: records.map Value.obj).map (·.text)).map (· ++ "\n")) := by
    rw [Backend.input, List.map_cons, List.map_cons, String.join_cons, List.map_map, List.map_map]
    rfl
  have recordLike : ∀ line ∈ (init.toValue :: records.map Value.obj).map (·.text),
      ∃ fields, line = (Value.obj fields).text := by
    intro line hline
    obtain ⟨v, hv, rfl⟩ := List.mem_map.mp hline
    rcases List.mem_cons.mp hv with rfl | hv
    · exact ⟨_, rfl⟩
    · obtain ⟨r, _, rfl⟩ := List.mem_map.mp hv
      exact ⟨r, rfl⟩
  rw [joined, fullLines_join]
  · intro line hline
    obtain ⟨fields, rfl⟩ := recordLike line hline
    exact Value.newline_not_mem_text _
  · intro line hline
    obtain ⟨fields, rfl⟩ := recordLike line hline
    exact Value.trimmed_text_obj fields

theorem readRequest_text {init : AggregationInit} (h : init.toValue.ReadsBack) :
    readRequest init.toValue.text = .ok init := by
  obtain ⟨kind, config⟩ := init
  rw [readRequest, h]
  cases kind <;> rfl

theorem takeLines_texts (s : Session) {records : List Record}
    (h : ∀ r ∈ records, (Value.obj r).ReadsBack) :
    takeLines s ((records.map Value.obj).map (·.text)) = .ok (s.pushAll records) := by
  induction records generalizing s with
  | nil => rfl
  | cons r rest ih =>
    have record : readRecord (Value.obj r).text = .ok r := by
      rw [readRecord, h r List.mem_cons_self]
    rw [List.map_cons, List.map_cons, takeLines, record]
    exact ih (s.push r) fun other hother => h other (List.mem_cons_of_mem _ hother)

/-- The program takes the very records that were sent, with the very configuration. -/
theorem session_input {init : AggregationInit} {records : List Record}
    (request : init.toValue.ReadsBack) (lines : ∀ r ∈ records, (Value.obj r).ReadsBack) :
    session (Backend.input init records) = (Session.start init).map (·.pushAll records) := by
  rw [session, fullLines_input, List.map_cons]
  simp only [readRequest_text request]
  change (Session.start init >>= fun s => _) = _
  cases Session.start init with
  | error e => rfl
  | ok s => exact takeLines_texts s lines

end Aggregator

namespace AggregationOutput

theorem readDrawing_render (c : Chart) : readDrawing (c.render ++ "\n") = .ok c.render := by
  have framed : Text.Trimmed c.render.toList := Svg.trimmed_markup _ _ _
  have begins : c.render.startsWith "<svg" = true :=
    String.startsWith_string_iff.mpr (Svg.prefix_markup "svg" _ _)
  rw [readDrawing, framed.trim_line, if_neg framed.ne_empty, if_pos (by simp [begins])]

theorem readTable_text {v : Value} (record : v.isRecord = true) (h : v.ReadsBack) :
    readTable (v.text ++ "\n") = .ok v := by
  have framed : Text.Trimmed v.text.toList := by
    cases v with
    | obj fields => exact Value.trimmed_text_obj fields
    | _ => cases record
  rw [readTable, framed.trim_line, if_neg framed.ne_empty, h]

/-- The payload of a finished session stands for its output. -/
theorem readPayload_finish {s : Session} (h : ∀ v, s.finish = .table v → v.ReadsBack) :
    readPayload s.kind (s.finish.payload ++ "\n") = .ok s.finish := by
  cases s with
  | graph chart =>
    change (readDrawing (chart.render ++ "\n")).map svg = _
    rw [readDrawing_render]
    rfl
  | pivot table =>
    change (readTable (table.toValue.text ++ "\n")).map AggregationOutput.table = _
    rw [readTable_text rfl (h _ rfl)]
    rfl
  | kpi figure =>
    change (readTable (figure.toValue.text ++ "\n")).map AggregationOutput.table = _
    rw [readTable_text rfl (h _ rfl)]
    rfl

end AggregationOutput

namespace Backend

/-- What is exchanged over the wire is read back from its text: the request, the records, their
number in the reply, and the table if there is one. -/
structure Exchanges (init : AggregationInit) (records : List Record) : Prop where
  request : init.toValue.ReadsBack
  lines : ∀ r ∈ records, (Value.obj r).ReadsBack
  count : (Value.nat records.length).ReadsBack
  table : ∀ v, inProcess init ⟨records, none⟩ = .ok (.table v) → v.ReadsBack

variable {init : AggregationInit} {records : List Record}

theorem overWire_of_start_error (h : Exchanges init records) {e : SessionError}
    (refused : Session.start init = .error e) :
    overWire init ⟨records, none⟩ = .error (reported e) := by
  have session := Aggregator.session_input h.request h.lines
  rw [refused] at session
  rw [overWire]
  simp only [Aggregator.split_run_of_error session]
  rfl

theorem overWire_of_start_ok (h : Exchanges init records) {s : Session}
    (started : Session.start init = .ok s) :
    overWire init ⟨records, none⟩ = .ok (s.pushAll records).finish := by
  have session := Aggregator.session_input h.request h.lines
  rw [started] at session
  obtain ⟨hkind, hrows⟩ := Session.start_eq_ok started
  have rows : (s.pushAll records).rows = records.length := by
    rw [Session.rows_pushAll, hrows, Nat.zero_add]
  have replied := Aggregator.split_run_of_ok session (rows ▸ h.count)
  have payload : AggregationOutput.readPayload init.kind
      ((s.pushAll records).finish.payload ++ "\n") = .ok (s.pushAll records).finish := by
    rw [← hkind, ← s.kind_pushAll records]
    refine AggregationOutput.readPayload_finish fun v hv => h.table v ?_
    rw [inProcess, started, ← hv]
    rfl
  rw [overWire]
  simp only [replied]
  exact payload

/-- Output for output and error for error, an aggregation over the wire ends as one that runs here,
if what is exchanged is read back from its text. -/
theorem overWire_agrees (init : AggregationInit) (records : List Record)
    (h : Exchanges init records) :
    overWire init ⟨records, none⟩ = inProcess init ⟨records, none⟩ := by
  rw [inProcess]
  cases hstart : Session.start init with
  | error e => exact overWire_of_start_error h hstart
  | ok s => exact overWire_of_start_ok h hstart

end Backend

namespace Deals

/-- The number of amounts. -/
def amountCount : AggregationInit :=
  ⟨.kpi, .obj [("operation", .str "count"), ("field", .str "amount")]⟩

/-- Deals whose notes span lines and hold quotes; one amount is no number. -/
def lineDeals : List Record :=
  [[("notes", .str "\n\"ask\"\r\n"), ("amount", .int (-2))],
    [("notes", .str "\\"), ("amount", .null)]]

end Deals

/-- The figure over these deals comes back, and so does what keeps a pivot from starting. -/
theorem Backend.overWire_agrees_lineDeals :
    Exchanges Deals.amountCount Deals.lineDeals ∧
    Exchanges ⟨.pivot, .obj []⟩ Deals.lineDeals ∧
    (∃ v, inProcess Deals.amountCount ⟨Deals.lineDeals, none⟩ = .ok (.table v) ∧
      overWire Deals.amountCount ⟨Deals.lineDeals, none⟩ = .ok (.table v)) ∧
    overWire ⟨.pivot, .obj []⟩ ⟨Deals.lineDeals, none⟩
      = .error (.rpc (-32602) "Rows are required for pivot table" "") := by
  have lines : ∀ r ∈ Deals.lineDeals, (Value.obj r).ReadsBack := by decide +kernel
  have count : (Value.nat Deals.lineDeals.length).ReadsBack := by decide +kernel
  have figure : ∃ v, inProcess Deals.amountCount ⟨Deals.lineDeals, none⟩ = .ok (.table v) ∧
      v.ReadsBack := ⟨_, rfl, by decide +kernel⟩
  obtain ⟨v, hv, readsBack⟩ := figure
  have exchanged : Exchanges Deals.amountCount Deals.lineDeals := by
    refine ⟨by decide +kernel, lines, count, fun w hw => ?_⟩
    obtain rfl : v = w := by simpa using hv.symm.trans hw
    exact readsBack
  have refused : Exchanges ⟨.pivot, .obj []⟩ Deals.lineDeals :=
    ⟨by decide +kernel, lines, count, fun w hw => by cases hw⟩
  exact ⟨exchanged, refused, ⟨v, hv, (overWire_agrees _ _ exchanged).trans hv⟩,
    (overWire_agrees _ _ refused).trans rfl⟩

end RecordQuery
