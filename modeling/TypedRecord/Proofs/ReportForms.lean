import Mathlib.Data.List.Forall2
import TypedRecord.Proofs.DataFile
import TypedRecord.Proofs.Findings
import TypedRecord.Proofs.ValidateData

/-!
# TypedRecord.Proofs.ReportForms

One report in all its forms.

A report is a list of judgements. It is written as a value for machines and as a text for readers, and
it decides the exit code; and the text can be made from the value as well, without the judgements. What
all of these have in common is one row for each document (`Judgements.rows`): its index, its status, and
the kind and the message of each issue. The value holds the rows (`Judgements.exists_isRow`), the text
lists them (`Judgements.text_report`), also when it is made from a value that holds them
(`Report.read_of_isRow`), and the exit code asks whether there is a row that is not in order
(`CommandLine.perform_validate`).

Of a row in order the issues are not read. That nothing is lost so is due to the verdicts: one without
issues is the only one that accepts. Validating ends at the first issue, or goes through all of them, but
whether there is one is the same question (`valid_eq_of_answers`).
-/

namespace TypedRecord

/-! ### Whether there is an issue -/

/-- A verdict on the first issue and a verdict on all issues agree whether there is one. -/
theorem valid_eq_of_answers {known : Option (List String)} {v : Validator} {data : Value}
    {schema : Schema} {mode : Mode} {label : Option String} {first all : Verdict}
    (hfirst : (validate known v data schema mode label).answer = .ok first)
    (hall : (collect known v data schema mode label).answer = .ok all) : first.valid = all.valid := by
  cases hv : v.enabled with
  | false =>
    rw [validate, hv] at hfirst
    rw [collect, hv] at hall
    cases hfirst
    cases hall
    rfl
  | true =>
    rw [answer_validate, if_pos hv] at hfirst
    rw [answer_collect hv] at hall
    obtain ⟨issues, hissues, rfl⟩ := Act.map_eq_ok.mp hall
    rw [issuesOf_eq_ok_iff.mp hissues] at hfirst
    cases issues with
    | nil => cases hfirst; rfl
    | cons issue rest => cases hfirst; rfl

/-- What is accepted does not depend on whether validating ends at the first issue. -/
theorem Catalog.valid_eq_of_validateData {cat : Catalog} {t : TypeId} {data : Value} {mode : Mode}
    {validator : Option Validator} {first all : Verdict}
    (hfirst : (cat.validateData t data mode validator false).answer = .ok first)
    (hall : (cat.validateData t data mode validator true).answer = .ok all) :
    first.valid = all.valid := by
  simp only [validateData, Act.answer_bind, Act.answer_ofExcept] at hfirst hall
  obtain ⟨entries, hentries, hfirst⟩ := Act.bind_eq_ok.mp hfirst
  rw [hentries, Act.ok_bind] at hall
  obtain ⟨_, hcopyable, hfirst⟩ := Act.bind_eq_ok.mp hfirst
  rw [hcopyable, Act.ok_bind] at hall
  obtain ⟨candidate, hcandidate, hfirst⟩ := Act.bind_eq_ok.mp hfirst
  rw [hcandidate, Act.ok_bind] at hall
  exact valid_eq_of_answers hfirst hall

/-! ### Rows -/

/-- What a report says about one document: its index, its status, and the kind and the message of each
issue. -/
structure ReportRow where
  index : Nat
  status : String
  issues : List (String × String)
  deriving DecidableEq, Repr

/-- What a report says about the document at an index. -/
def Judgement.row (index : Nat) (j : Judgement) : ReportRow where
  index := index
  status := if j.isOk then "ok" else "error"
  issues := match j with
    | notMapping => [("type_mismatch", "Record " ++ toString index ++ " is not a mapping")]
    | judged verdict => verdict.issues.map fun issue => (issue.kind.word, issue.message)

/-- What a report says, document by document. -/
def Judgements.rows (js : Judgements) : List ReportRow := js.list.mapIdx Judgement.row

/-- A row that says that its document is in order. -/
def ReportRow.isOk (row : ReportRow) : Bool := row.status == "ok"

/-- What is read out of the value for an issue. -/
structure Value.IsIssue (v : Value) (issue : String × String) : Prop where
  kind : Report.member "kind" v = .ok (.str issue.1)
  message : Report.member "message" v = .ok (.str issue.2)

/-- What is read out of the value for a row. -/
structure Value.IsRow (v : Value) (row : ReportRow) : Prop where
  index : Report.member "index" v = .ok (.int row.index)
  status : Report.member "status" v = .ok (.str row.status)
  issues : ∃ vs, Report.member "issues" v = .ok (.list none vs) ∧
    List.Forall₂ Value.IsIssue vs row.issues

theorem Judgement.isOk_row (index : Nat) (j : Judgement) : (j.row index).isOk = j.isOk := by
  unfold ReportRow.isOk row
  cases j.isOk <;> rfl

/-- A row has issues exactly if its document is not in order. -/
theorem Judgement.issues_row_eq_nil_iff (index : Nat) (j : Judgement) :
    (j.row index).issues = [] ↔ (j.row index).status = "ok" := by
  have hstatus : (j.row index).status = "ok" ↔ j.isOk = true := by
    rw [← j.isOk_row index, ReportRow.isOk, beq_iff_eq]
  rw [hstatus]
  cases j with
  | notMapping => exact iff_of_false (List.cons_ne_nil _ _) Bool.false_ne_true
  | judged verdict => rw [row, List.map_eq_nil_iff, isOk, verdict.valid_iff]

theorem Judgement.isRow_toValue (index : Nat) (j : Judgement) :
    (j.toValue index).IsRow (j.row index) where
  index := rfl
  status := rfl
  issues := by
    refine ⟨_, rfl, ?_⟩
    cases j with
    | notMapping => exact .cons ⟨rfl, rfl⟩ .nil
    | judged verdict =>
      rw [row, List.forall₂_map_left_iff, List.forall₂_map_right_iff, List.forall₂_same]
      exact fun issue _ => ⟨rfl, rfl⟩

/-- What of the rows does not depend on their indices can be read off the judgements. -/
theorem Judgements.map_rows {α : Type} {f : ReportRow → α} {g : Judgement → α} (js : Judgements)
    (h : ∀ index j, f (Judgement.row index j) = g j) : js.rows.map f = js.list.map g := by
  have hlist := congrArg (List.map g) (js.list.zipIdx_map_fst 0)
  rw [rows, List.mapIdx_eq_zipIdx_map, List.map_map, ← hlist, List.map_map]
  exact List.map_congr_left fun e _ => h e.2 e.1

/-- The report for machines holds the rows, in their order. -/
theorem Judgements.exists_isRow (js : Judgements) :
    ∃ values, Report.member "validated" js.toValue = .ok (.list none values) ∧
      List.Forall₂ Value.IsRow values js.rows := by
  refine ⟨_, rfl, ?_⟩
  rw [rows, List.mapIdx_eq_zipIdx_map, List.mapIdx_eq_zipIdx_map, List.forall₂_map_left_iff,
    List.forall₂_map_right_iff, List.forall₂_same]
  exact fun e _ => e.1.isRow_toValue e.2

/-! ### The text -/

/-- The entry about a row, as it is shown. -/
def ReportRow.entry (row : ReportRow) : ReportEntry where
  index := toString row.index
  isOk := row.isOk
  issues := row.issues.map fun issue => ⟨issue.1, issue.2⟩

/-- The rows that say that their document is in order. -/
def ReportRow.valid (rows : List ReportRow) : List ReportRow := rows.filter isOk

/-- The other rows. -/
def ReportRow.failed (rows : List ReportRow) : List ReportRow := rows.filter fun row => !row.isOk

/-- What is shown about a row that is not in order: its index, and each issue. -/
def ReportRow.failureItems (row : ReportRow) : List String :=
  s!"  ✗ #{row.index}" :: row.issues.map fun (kind, message) => s!"    {kind}: {message}"

/-- The text on rows: how many there are of them, then every row that is not in order, then every row
that is. -/
def ReportRow.textOf (schema mode : String) (rows : List ReportRow) : String :=
  let header := s!"Validated {rows.length} records against {schema} ({mode} mode): " ++
    s!"{(valid rows).length} valid, {(failed rows).length} failed"
  "\n".intercalate (header ::
    titled "Failed records:" ((failed rows).flatMap failureItems) ++
    titled "Valid records:" ((valid rows).map fun row => s!"  ✓ #{row.index}"))

theorem ReportRow.length_valid_add_length_failed (rows : List ReportRow) :
    (valid rows).length + (failed rows).length = rows.length :=
  (rows.length_eq_length_filter_add isOk).symm

theorem Judgement.entry_row (index : Nat) (j : Judgement) : (j.row index).entry = j.entry index := by
  unfold ReportRow.entry
  rw [j.isOk_row index]
  cases j with
  | notMapping => rfl
  | judged verdict => simp [row, entry]

theorem Judgements.entries_report (js : Judgements) :
    js.report.entries = js.rows.map ReportRow.entry := by
  rw [report, rows, List.mapIdx_eq_zipIdx_map, List.mapIdx_eq_zipIdx_map, List.map_map]
  exact List.map_congr_left fun e _ => (e.1.entry_row e.2).symm

theorem ReportRow.failureLines_entry (row : ReportRow) :
    row.entry.failureLines = row.failureItems := by
  rw [ReportEntry.failureLines, failureItems, entry, List.map_map]
  rfl

/-- The text on entries about rows is the text on the rows. -/
theorem ReportRow.text_of_entries {rows : List ReportRow} (hrows : rows ≠ []) (schema mode : String) :
    (Report.mk schema mode (rows.map entry)).text = textOf schema mode rows := by
  have hvalid : (rows.map entry).filter ReportEntry.isOk = (valid rows).map entry := List.filter_map
  have hfailed : ((rows.map entry).filter fun e => !e.isOk) = (failed rows).map entry :=
    List.filter_map
  rw [Report.text, if_neg (by simpa using hrows)]
  simp only [hvalid, hfailed, List.length_map, List.flatMap_map, List.map_map, failureLines_entry]
  rfl

/-- The text lists the rows. -/
theorem Judgements.text_report {js : Judgements} (hrows : js.rows ≠ []) :
    js.report.text = ReportRow.textOf js.schema js.mode.word js.rows := by
  rw [← ReportRow.text_of_entries hrows, ← js.entries_report]
  rfl

example : (Judgements.mk "Account" .loose [.judged .success, .notMapping]).report.text =
    "Validated 2 records against Account (loose mode): 1 valid, 1 failed\n\n" ++
    "Failed records:\n  ✗ #1\n    type_mismatch: Record 1 is not a mapping\n\n" ++
    "Valid records:\n  ✓ #0" := by
  decide +kernel

/-! ### The text from the value -/

namespace Report

/-- Sorting the entries into those that are shown first and the others does not change the text. -/
theorem text_sorted (schema mode : String) (entries : List ReportEntry) :
    (Report.mk schema mode
      ((entries.filter fun e => !e.isOk) ++ entries.filter ReportEntry.isOk)).text =
      (Report.mk schema mode entries).text := by
  have hlength : ((entries.filter fun e => !e.isOk) ++ entries.filter ReportEntry.isOk).length =
      entries.length := by
    rw [List.length_append, Nat.add_comm]
    exact (entries.length_eq_length_filter_add ReportEntry.isOk).symm
  have hempty : (entries.filter fun e => !e.isOk) ++ entries.filter ReportEntry.isOk = [] ↔
      entries = [] := by
    rw [← List.length_eq_zero_iff, hlength, List.length_eq_zero_iff]
  simp only [text, hempty, hlength, List.filter_append, List.filter_filter]
  simp

theorem readStatus_of_isRow {v : Value} {row : ReportRow} (h : v.IsRow row) :
    readStatus v = .ok row.isOk := by
  have htext : (Value.str row.status).text? = some row.status := rfl
  rw [readStatus, h.status, Act.ok_bind, htext, ReportRow.isOk, statusOk, beq_eq_decide]
  simp only [Option.some.injEq]
  rfl

theorem readIssue_of_isIssue {v : Value} {issue : String × String} (h : v.IsIssue issue) :
    readIssue v = .ok ⟨issue.1, issue.2⟩ := by
  rw [readIssue, h.kind, h.message]
  rfl

theorem mapM_readIssue {vs : List Value} {issues : List (String × String)}
    (h : List.Forall₂ Value.IsIssue vs issues) :
    vs.mapM readIssue = .ok (issues.map fun issue => ⟨issue.1, issue.2⟩) := by
  induction h with
  | nil => rfl
  | cons hissue _ ih =>
    rw [List.mapM_cons, readIssue_of_isIssue hissue, ih]
    rfl

/-- A row is read as the entry about it. The issues of a row in order are not looked at, so there must
be none. -/
theorem readEntry_of_isRow {v : Value} {row : ReportRow} (h : v.IsRow row)
    (hnone : row.isOk = true → row.issues = []) : readEntry row.isOk v = .ok row.entry := by
  obtain ⟨vs, hvs, hissues⟩ := h.issues
  have hrows : rows (.list none vs) = .ok vs := rfl
  cases hok : row.isOk with
  | true =>
    rw [readEntry, h.index, Act.ok_bind, if_pos rfl, ReportRow.entry, hok, hnone hok]
    rfl
  | false =>
    rw [readEntry, h.index, hvs, Act.ok_bind, if_neg Bool.false_ne_true, Act.ok_bind, hrows,
      Act.ok_bind, mapM_readIssue hissues, Act.ok_bind, ReportRow.entry, hok]
    rfl

variable {ps : List (Value × ReportRow)}

theorem mapM_readStatus (hrows : ∀ p ∈ ps, p.1.IsRow p.2) :
    (ps.map Prod.fst).mapM (fun e => do pure (← readStatus e, e)) =
      .ok (ps.map fun p => (p.2.isOk, p.1)) := by
  rw [List.mapM_map]
  refine Act.mapM_eq_ok fun p hp => ?_
  simp only [Function.comp_apply, readStatus_of_isRow (hrows p hp)]
  rfl

/-- The rows with one status are read, each as the entry about it. -/
theorem mapM_readEntry {isOk : Bool} {keep : Bool → Bool} (hkeep : ∀ ok, keep ok = true → ok = isOk)
    (hrows : ∀ p ∈ ps, p.1.IsRow p.2)
    (hnone : ∀ row ∈ ps.map Prod.snd, row.isOk = true → row.issues = []) :
    ((ps.filter fun p => keep p.2.isOk).map fun p => (p.2.isOk, p.1)).mapM
        (fun e => readEntry isOk e.2) =
      .ok (((ps.filter fun p => keep p.2.isOk).map Prod.snd).map ReportRow.entry) := by
  rw [List.mapM_map, List.map_map]
  refine Act.mapM_eq_ok fun p hp => ?_
  obtain ⟨hp, hkept⟩ := List.mem_filter.mp hp
  obtain rfl := hkeep _ hkept
  exact readEntry_of_isRow (hrows p hp) (hnone p.2 (List.mem_map_of_mem hp))

/-- A report that holds rows is read as the entries about them, those that are shown first before the
others. -/
theorem read_of_isRow {v : Value} {schema mode : String} {values : List Value}
    {rows : List ReportRow} (hschema : member "schema" v = .ok (.str schema))
    (hmode : member "mode" v = .ok (.str mode))
    (hvalues : member "validated" v = .ok (.list none values))
    (hrows : List.Forall₂ Value.IsRow values rows) (hsome : values ≠ [])
    (hnone : ∀ row ∈ rows, row.isOk = true → row.issues = []) :
    read v = .ok ⟨schema, mode,
      (ReportRow.failed rows).map ReportRow.entry ++ (ReportRow.valid rows).map ReportRow.entry⟩ := by
  -- Reading filters the values by what it read, so the values and the rows are taken as one list.
  obtain ⟨hlength, hzip⟩ := List.forall₂_iff_zip.mp hrows
  have hsplit : ∃ ps : List (Value × ReportRow), ps.map Prod.fst = values ∧ ps.map Prod.snd = rows ∧
      ∀ p ∈ ps, p.1.IsRow p.2 :=
    ⟨values.zip rows, List.map_fst_zip (Nat.le_of_eq hlength),
      List.map_snd_zip (Nat.le_of_eq hlength.symm), fun _ hp => hzip hp⟩
  obtain ⟨ps, rfl, rfl, hps⟩ := hsplit
  have hfailed := @mapM_readEntry ps false (fun ok => !ok) (by simp) hps hnone
  have hvalid := @mapM_readEntry ps true (fun ok => ok) (by simp) hps hnone
  have htruthy : (Value.list none (ps.map Prod.fst)).truthy = true := by
    simpa [Value.truthy] using hsome
  have hitems : Report.rows (.list none (ps.map Prod.fst)) = .ok (ps.map Prod.fst) := rfl
  have hplain (s : String) : (Value.str s).plainText = s := rfl
  simp only [read, hvalues, Act.ok_bind, htruthy, Bool.not_true, Bool.false_eq_true, if_false, hitems,
    mapM_readStatus hps, hschema, hmode, List.filter_map, Function.comp_def, hplain,
    hfailed, hvalid, ReportRow.failed, ReportRow.valid]
  rfl

end Report

/-- The issues of a row in order are none. -/
theorem Judgements.issues_eq_nil_of_isOk {js : Judgements} :
    ∀ row ∈ js.rows, row.isOk = true → row.issues = [] := by
  intro row hrow hok
  rw [rows, List.mapIdx_eq_zipIdx_map] at hrow
  obtain ⟨e, _, rfl⟩ := List.mem_map.mp hrow
  exact (e.1.issues_row_eq_nil_iff e.2).mpr (eq_of_beq hok)

theorem Judgements.rows_eq_nil_iff {js : Judgements} : js.rows = [] ↔ js.list = [] := by
  rw [rows, List.mapIdx_eq_nil_iff]

/-- The text that is made from the value is the text on the judgements. -/
theorem Judgements.text_read_toValue (js : Judgements) :
    (Report.read js.toValue).map Report.text = .ok js.report.text := by
  by_cases hnone : js.rows = []
  · obtain ⟨schema, mode, list⟩ := js
    obtain rfl : list = [] := rows_eq_nil_iff.mp hnone
    rfl
  · obtain ⟨values, hvalues, hrows⟩ := js.exists_isRow
    have hsome : values ≠ [] := by
      rintro rfl
      exact hnone (List.forall₂_nil_left_iff.mp hrows)
    have hread := Report.read_of_isRow rfl rfl hvalues hrows hsome issues_eq_nil_of_isOk
    have hsorted := Report.text_sorted js.schema js.mode.word js.report.entries
    rw [js.entries_report, List.filter_map, List.filter_map, ← js.entries_report] at hsorted
    rw [hread]
    exact congrArg Except.ok hsorted

/-! ### Documents -/

/-- Two lists beside a third one look alike if what stands beside one item does. -/
theorem map_eq_of_forall₂ {α β γ : Type} {R S : α → β → Prop} {f : β → γ} {as : List α}
    {bs cs : List β} (hsame : ∀ a b c, R a b → S a c → f b = f c) (hbs : List.Forall₂ R as bs)
    (hcs : List.Forall₂ S as cs) : bs.map f = cs.map f := by
  induction hbs generalizing cs with
  | nil => cases hcs; rfl
  | cons hb _ ih =>
    cases hcs with
    | cons hc hcs => rw [List.map_cons, List.map_cons, hsame _ _ _ hb hc, ih hcs]

section Documents

variable {cat : Catalog} {t : TypeId} {mode : Mode} {v : Validator} {exhaustive : Bool}
  {judge : Value → Traced Judgement} {document : Value} {documents : List Value} {j : Judgement}
  {js : Judgements}

/-- There is a report exactly where there is a judgement on every document. -/
theorem answer_judgeDocuments_eq_ok :
    (judgeDocuments cat t mode judge documents).answer = .ok js ↔
      js.schema = (cat.typeAt t).schemaName ∧ js.mode = mode ∧
        List.Forall₂ (fun document j => (judge document).answer = .ok j) documents js.list := by
  have hforall : List.Forall₂ (fun document j => (judge document).answer = .ok j) documents js.list ↔
      (Act.inTurn (documents.map judge)).answer = .ok js.list := by
    rw [Act.answer_inTurn_eq_ok, ← List.forall₂_eq_eq_eq, List.map_map, List.forall₂_map_left_iff,
      List.forall₂_map_right_iff]
    rfl
  rw [hforall, judgeDocuments, Act.answer_bind, Act.bind_eq_ok]
  constructor
  · rintro ⟨list, hlist, hjs⟩
    cases hjs
    exact ⟨rfl, rfl, hlist⟩
  · rintro ⟨hschema, hmode, hlist⟩
    exact ⟨js.list, hlist, by rw [← hschema, ← hmode]; rfl⟩

theorem judgeDocument_of_not_isDict (h : document.isDict = false) :
    (judgeDocument cat t mode v exhaustive document).answer = .ok .notMapping := by
  rw [judgeDocument, h]
  rfl

theorem judgeDocument_of_isDict (h : document.isDict = true) :
    (judgeDocument cat t mode v exhaustive document).answer =
      (cat.validateData t document mode (some v) exhaustive).answer.map .judged := by
  rw [judgeDocument, if_pos h, Act.answer_bind]
  cases (cat.validateData t document mode (some v) exhaustive).answer <;> rfl

/-- A document is in order exactly if it is a mapping that is accepted. -/
theorem isOk_of_judgeDocument (h : (judgeDocument cat t mode v exhaustive document).answer = .ok j) :
    j.isOk = true ↔ document.isDict = true ∧ ∃ verdict,
      (cat.validateData t document mode (some v) exhaustive).answer = .ok verdict ∧
        verdict.valid = true := by
  cases hdict : document.isDict with
  | false =>
    rw [judgeDocument_of_not_isDict hdict] at h
    cases h
    exact iff_of_false Bool.false_ne_true fun h => Bool.false_ne_true h.1
  | true =>
    rw [judgeDocument_of_isDict hdict, Act.map_eq_ok] at h
    obtain ⟨verdict, hverdict, rfl⟩ := h
    rw [hverdict]
    constructor
    · exact fun hvalid => ⟨rfl, verdict, rfl, hvalid⟩
    · rintro ⟨_, _, hsame, hvalid⟩
      cases hsame
      exact hvalid

/-- Whether a document is in order does not depend on whether validating ends at the first issue. -/
theorem isOk_eq_of_judgeDocument {first all : Judgement}
    (hfirst : (judgeDocument cat t mode v false document).answer = .ok first)
    (hall : (judgeDocument cat t mode v true document).answer = .ok all) :
    first.isOk = all.isOk := by
  cases hdict : document.isDict with
  | false =>
    rw [judgeDocument_of_not_isDict hdict] at hfirst hall
    cases hfirst
    cases hall
    rfl
  | true =>
    rw [judgeDocument_of_isDict hdict, Act.map_eq_ok] at hfirst hall
    obtain ⟨verdict, hverdict, rfl⟩ := hfirst
    obtain ⟨verdict', hverdict', rfl⟩ := hall
    exact Catalog.valid_eq_of_validateData hverdict hverdict'

/-- The rows stand beside the documents. -/
theorem forall₂_rows {R : Value → ReportRow → Prop}
    (h : (judgeDocuments cat t mode judge documents).answer = .ok js)
    (hrow : ∀ document index j, (judge document).answer = .ok j → R document (j.row index)) :
    List.Forall₂ R documents js.rows := by
  have hjudged := (answer_judgeDocuments_eq_ok.mp h).2.2
  rw [← js.list.zipIdx_map_fst 0, List.forall₂_map_right_iff] at hjudged
  rw [Judgements.rows, List.mapIdx_eq_zipIdx_map, List.forall₂_map_right_iff]
  exact hjudged.imp fun document (e : Judgement × Nat) => hrow document e.2 e.1

theorem index_rows (h : (judgeDocuments cat t mode judge documents).answer = .ok js) :
    js.rows.map ReportRow.index = List.range documents.length := by
  have hlength := (answer_judgeDocuments_eq_ok.mp h).2.2.length_eq
  rw [Judgements.rows, List.mapIdx_eq_zipIdx_map, List.map_map, hlength]
  exact (List.zipIdx_map_snd 0 js.list).trans List.range_eq_range'.symm

/-- The statuses are the same if validating ends at the first issue. -/
theorem status_rows_eq {first all : Judgements}
    (hfirst : (judgeDocuments cat t mode (judgeDocument cat t mode v false) documents).answer = .ok first)
    (hall : (judgeDocuments cat t mode (judgeDocument cat t mode v true) documents).answer = .ok all) :
    first.rows.map ReportRow.status = all.rows.map ReportRow.status := by
  have hstatus (js : Judgements) : js.rows.map ReportRow.status =
      js.list.map fun j => if j.isOk then "ok" else "error" := js.map_rows fun _ _ => rfl
  rw [hstatus, hstatus]
  refine map_eq_of_forall₂ ?_ (answer_judgeDocuments_eq_ok.mp hfirst).2.2
    (answer_judgeDocuments_eq_ok.mp hall).2.2
  intro document j j' hj hj'
  rw [isOk_eq_of_judgeDocument hj hj']

end Documents

/-! ### The command -/

/-- All is well exactly if no row says otherwise. -/
theorem Judgements.allOk_iff (js : Judgements) :
    js.allOk = true ↔ (ReportRow.failed js.rows).length = 0 := by
  have hok : js.rows.map ReportRow.isOk = js.list.map Judgement.isOk :=
    js.map_rows Judgement.isOk_row
  calc js.allOk = true
      ↔ ∀ ok ∈ js.list.map Judgement.isOk, ok = true := by
        rw [allOk, List.all_eq_true, List.forall_mem_map]
    _ ↔ ∀ row ∈ js.rows, row.isOk = true := by rw [← hok, List.forall_mem_map]
    _ ↔ (ReportRow.failed js.rows).length = 0 := by
        rw [List.length_eq_zero_iff, ReportRow.failed, List.filter_eq_nil_iff]
        simp

namespace CommandLine

/-- The text that the command prints for a report. -/
def reportText (json : Bool) (js : Judgements) : Except Failure String :=
  if json then printResult js.toValue true else .ok (textLine js.report.text)

variable {files : FileTree} {env : Environment} {schema : String} {path : Path} {mode : Option Mode}
  {exhaustive : Bool} {common : Common} {i : Inspection} {js : Judgements} {text : String}

/-- The command reports on the documents in the file. -/
theorem Inspection.exists_judgeDocuments_of_results (h : (i.results files path).answer = .ok js) :
    ∃ document, Document.load files path i.cat.depth = .ok document ∧
      (judgeDocuments i.cat i.type i.mode (judgeDocument i.cat i.type i.mode i.validator i.exhaustive)
        document.documents).answer = .ok js := by
  rw [results, Act.answer_bind, Act.answer_ofExcept] at h
  obtain ⟨document, hdocument, h⟩ := Act.bind_eq_ok.mp h
  obtain ⟨hschema, hmode, hjudged⟩ := answer_judgeDocuments_eq_ok.mp h
  refine ⟨document, hdocument, answer_judgeDocuments_eq_ok.mpr ⟨hschema, hmode, ?_⟩⟩
  refine hjudged.imp fun record j hj => ?_
  cases hrecord : record.isDict with
  | false =>
    rw [answer_judge_of_not_isDict hrecord] at hj
    rw [judgeDocument_of_not_isDict hrecord, hj]
  | true =>
    rw [answer_judge_of_isDict hrecord] at hj
    obtain ⟨_, _, hj⟩ := Act.bind_eq_ok.mp hj
    rw [judgeDocument_of_isDict hrecord]
    exact hj

/-- A report that can be written is printed, and the exit code tells whether all is well. -/
theorem perform_validate (manual : Refusal.Manual)
    (hinspection : ((Inspection.ofRequest files env schema mode exhaustive common).run {}).result = .ok i)
    (hresults : (i.results files path).answer = .ok js)
    (htext : reportText common.json js = .ok text) (hwritable : Text.encodingFault? text = none) :
    (perform manual files env (.validate schema path mode exhaustive common)).out = text ∧
      (perform manual files env (.validate schema path mode exhaustive common)).exit =
        if 0 < (ReportRow.failed js.rows).length then 1 else 0 := by
  have hanswer : ((execute files env (.validate schema path mode exhaustive common)).run {}).result =
      .ok ⟨[text], js.allOk⟩ := by
    rw [execute, Act.result_bind, hinspection, Act.ok_bind, Act.result_bind]
    rw [reportText] at htext
    simp only [Act.run_lift, Act.result_run_unit, hresults, Act.ok_bind, Act.result_bind,
      Act.run_ofExcept, htext]
    rfl
  have hparts : printParts [text] = (text, none) := by
    rw [printParts, hwritable]
    simp [printParts]
  have hexit : (if js.allOk = true then 0 else 1) =
      if 0 < (ReportRow.failed js.rows).length then 1 else 0 := by
    simp only [js.allOk_iff]
    split <;> split <;> omega
  simp only [perform, hanswer, hparts]
  exact ⟨trivial, hexit⟩

/-! ### All forms -/

/-- A report on documents says the same in all its forms. Its value has one row for each document, in
order; a row says `ok` exactly if its document is a mapping that is accepted, and it has an issue exactly
if it says otherwise. The text on at least one document, made from the judgements or from the value,
counts the rows and lists those that say otherwise, with their issues, and then those that say `ok`.
None of the statuses depends on whether validating ends at the first issue. And where the command prints
its report on the documents in a file, as text or as a value, the exit code is 1 if some row says
otherwise, and 0 if none does. -/
theorem report_says_the_same_in_all_forms {cat : Catalog} {t : TypeId} {mode : Mode} {v : Validator}
    {documents : List Value} {js : Bool → Judgements}
    (h : ∀ exhaustive,
      (judgeDocuments cat t mode (judgeDocument cat t mode v exhaustive) documents).answer =
        .ok (js exhaustive)) :
    (∀ exhaustive,
      (∃ values, Report.member "validated" (js exhaustive).toValue = .ok (.list none values) ∧
        List.Forall₂ Value.IsRow values (js exhaustive).rows) ∧
      (js exhaustive).rows.map ReportRow.index = List.range documents.length ∧
      List.Forall₂ (fun document row =>
        (row.status = "ok" ↔ document.isDict = true ∧ ∃ verdict,
          (cat.validateData t document mode (some v) exhaustive).answer = .ok verdict ∧
            verdict.valid = true) ∧
        (row.issues ≠ [] ↔ row.status ≠ "ok")) documents (js exhaustive).rows ∧
      (documents ≠ [] →
        (js exhaustive).report.text =
          ReportRow.textOf (cat.typeAt t).schemaName mode.word (js exhaustive).rows ∧
        (Report.read (js exhaustive).toValue).map Report.text =
          .ok (ReportRow.textOf (cat.typeAt t).schemaName mode.word (js exhaustive).rows)) ∧
      (ReportRow.valid (js exhaustive).rows).length +
        (ReportRow.failed (js exhaustive).rows).length = documents.length) ∧
    (js false).rows.map ReportRow.status = (js true).rows.map ReportRow.status ∧
    ∀ files env arguments manual schema path mode' exhaustive common i results text,
      Request.read files arguments = .ok (.validate schema path mode' exhaustive common) →
      ((Inspection.ofRequest files env schema mode' exhaustive common).run {}).result = .ok i →
      (i.results files path).answer = .ok results →
      reportText common.json results = .ok text → Text.encodingFault? text = none →
      (∃ document, Document.load files path i.cat.depth = .ok document ∧
        (judgeDocuments i.cat i.type i.mode
          (judgeDocument i.cat i.type i.mode i.validator i.exhaustive) document.documents).answer =
            .ok results) ∧
      (answer files env arguments manual).out = text ∧
      (answer files env arguments manual).exit =
        if 0 < (ReportRow.failed results.rows).length then 1 else 0 := by
  refine ⟨fun exhaustive => ?_, status_rows_eq (h false) (h true), ?_⟩
  · have hindex := index_rows (h exhaustive)
    have hlength : (js exhaustive).rows.length = documents.length := by
      simpa using congrArg List.length hindex
    obtain ⟨hschema, hmode, _⟩ := answer_judgeDocuments_eq_ok.mp (h exhaustive)
    refine ⟨(js exhaustive).exists_isRow, hindex, ?_, ?_, ?_⟩
    · refine forall₂_rows (h exhaustive) fun document index j hj => ⟨?_, ?_⟩
      · rw [← isOk_of_judgeDocument hj, ← j.isOk_row index, ReportRow.isOk, beq_iff_eq]
      · exact not_congr (j.issues_row_eq_nil_iff index)
    · intro hdocuments
      have hrows : (js exhaustive).rows ≠ [] := by
        rwa [← List.length_pos_iff, hlength, List.length_pos_iff]
      have htext := Judgements.text_report hrows
      rw [hschema, hmode] at htext
      exact ⟨htext, by rw [Judgements.text_read_toValue, htext]⟩
    · rw [ReportRow.length_valid_add_length_failed, hlength]
  · intro files env arguments manual schema path mode' exhaustive common i results text hread
      hinspection hresults htext hwritable
    have hperform := perform_validate manual hinspection hresults htext hwritable
    refine ⟨Inspection.exists_judgeDocuments_of_results hresults, ?_⟩
    simpa only [answer, hread] using hperform

/-- A directory with an account and with something that is none. -/
def accountAndNumber : FileTree := Inspection.accountFiles "[\x7b\"owner\": \"Ann\"\x7d, 5]"

/-- How the accounts are validated. -/
def validateAccounts : List String := ["validate", "Account", "d.json", "--schemas", "s.json"]

/-- One of two documents is in order, whether validating ends at the first issue or not, and the command
ends with the exit code 1. -/
theorem report_on_account_and_number :
    ∃ (i : Inspection) (documents : List Value) (js : Bool → Judgements),
      documents ≠ [] ∧
      (∀ exhaustive, (judgeDocuments i.cat i.type i.mode
        (judgeDocument i.cat i.type i.mode i.validator exhaustive) documents).answer =
          .ok (js exhaustive)) ∧
      (js false).rows.map ReportRow.status = ["ok", "error"] ∧
      (js true).rows.map ReportRow.status = ["ok", "error"] ∧
      (js true).report.text =
        ReportRow.textOf (i.cat.typeAt i.type).schemaName i.mode.word (js true).rows ∧
      (answer accountAndNumber [] validateAccounts).exit = 1 := by
  have hread : Request.read accountAndNumber validateAccounts = .ok (.validate "Account"
      (.ofText "d.json") none false ⟨[.ofText "s.json"], none, false, false⟩) := by
    decide +kernel
  have hopen : ∃ i, Inspection.ofAccounts "[\x7b\"owner\": \"Ann\"\x7d, 5]" = .ok i ∧
      (Act.passes (fun js => (ReportRow.failed js.rows).length == 1 &&
          Text.encodingFault? (textLine js.report.text) == none)
        (i.results accountAndNumber (.ofText "d.json")).answer &&
      Act.passes (fun document => !document.documents.isEmpty && [false, true].all fun exhaustive =>
          Act.passes (fun js => js.rows.map ReportRow.status == ["ok", "error"])
            (judgeDocuments i.cat i.type i.mode
              (judgeDocument i.cat i.type i.mode i.validator exhaustive) document.documents).answer)
        (Document.load accountAndNumber (.ofText "d.json") i.cat.depth)) = true :=
    Act.exists_of_passes (by decide +kernel)
  obtain ⟨i, hi, hboth⟩ := hopen
  obtain ⟨hresults, hdocuments⟩ := Bool.and_eq_true_iff.mp hboth
  obtain ⟨results, hresults, hprinted⟩ := Act.exists_of_passes hresults
  obtain ⟨hfailed, hwritable⟩ := Bool.and_eq_true_iff.mp hprinted
  obtain ⟨document, -, hdocument⟩ := Act.exists_of_passes hdocuments
  obtain ⟨hsome, hjudged⟩ := Bool.and_eq_true_iff.mp hdocument
  have hdocuments : document.documents ≠ [] := by simpa using hsome
  have hboth : ∀ exhaustive, ∃ js, (judgeDocuments i.cat i.type i.mode
      (judgeDocument i.cat i.type i.mode i.validator exhaustive) document.documents).answer = .ok js ∧
        (js.rows.map ReportRow.status == ["ok", "error"]) = true := by
    intro exhaustive
    exact Act.exists_of_passes (List.all_eq_true.mp hjudged exhaustive (by cases exhaustive <;> simp))
  obtain ⟨js, hjs⟩ := Classical.skolem.mp hboth
  obtain ⟨hforms, hsame, hcommand⟩ :=
    report_says_the_same_in_all_forms fun exhaustive => (hjs exhaustive).1
  have hfirst : (js false).rows.map ReportRow.status = ["ok", "error"] := eq_of_beq (hjs false).2
  obtain ⟨-, -, -, htext, -⟩ := hforms true
  obtain ⟨-, -, hexit⟩ := hcommand _ _ _ installedManual _ _ _ _ _ _ _ _ hread hi hresults rfl
    (eq_of_beq hwritable)
  refine ⟨i, document.documents, js, hdocuments, fun exhaustive => (hjs exhaustive).1, hfirst,
    hsame ▸ hfirst, (htext hdocuments).1, ?_⟩
  rw [hexit, eq_of_beq hfailed]
  rfl

end CommandLine

end TypedRecord
