import TypedRecord.CommandLine.Run
import TypedRecord.Proofs.Reportable
import TypedRecord.Proofs.Reporting

/-!
# TypedRecord.Proofs.DataFile

The results on a data file, row by row.

A text is parsed into a document, and what counts as false is taken for the empty mapping
(`Document.read`). The records are the items of a list, or else the document itself. Each record gets a
row, told by what can be read out of it (`RowSays`): that there is no mapping, or the verdict on the
mapping (`Inspection.RowFor`). The rows stand in the order of the records and bear their indices
(`Inspection.RowsFor`).

One record without a verdict leaves the file without results, so beside what the results are stands
when there are any. And because of what counts as false a file without records has a row all the same:
one about the empty mapping.
-/

namespace TypedRecord

/-- The rows in the results. -/
theorem Judgements.member_validated (js : Judgements) :
    Report.member "validated" js.toValue = .ok (.list none (js.list.mapIdx Judgement.toValue)) := rfl

namespace CommandLine

/-! ### Rows -/

/-- What is read out of a row. -/
structure RowSays (row : Value) (index : Nat) (status : String) (issues : List Value) : Prop where
  index : Report.member "index" row = .ok (.int index)
  status : Report.member "status" row = .ok (.str status)
  issues : Report.member "issues" row = .ok (.list none issues)

theorem rowSays_toValue_notMapping (index : Nat) :
    RowSays (Judgement.notMapping.toValue index) index "error"
      [.ofFields [("kind", .str "type_mismatch"),
        ("message", .str s!"Record {index} is not a mapping")]] :=
  ⟨rfl, rfl, rfl⟩

theorem rowSays_toValue_judged (verdict : Verdict) (index : Nat) :
    RowSays ((Judgement.judged verdict).toValue index) index
      (if verdict.valid then "ok" else "error") (verdict.issues.map Issue.toValue) :=
  ⟨rfl, rfl, rfl⟩

namespace Inspection

variable {i : Inspection} {index : Nat} {record row : Value} {records : List Value}
  {list : List Judgement}

/-- The verdict on a record, or why there is none. -/
def verdictOn (i : Inspection) (record : Value) : Except Failure Verdict :=
  (i.cat.validateData i.type record i.mode (some i.validator) i.exhaustive).answer

/-- A row is about a record. -/
inductive RowFor (i : Inspection) (index : Nat) (record row : Value) : Prop
  | notMapping (hrecord : record.isDict = false)
      (hrow : RowSays row index "error"
        [.ofFields [("kind", .str "type_mismatch"),
          ("message", .str s!"Record {index} is not a mapping")]])
  | judged (verdict : Verdict) (hrecord : record.isDict = true)
      (hverdict : i.verdictOn record = .ok verdict)
      (hrow : RowSays row index (if verdict.valid then "ok" else "error")
        (verdict.issues.map Issue.toValue))

/-- There is one row for each record, in their order. -/
structure RowsFor (i : Inspection) (records rows : List Value) : Prop where
  length_eq : rows.length = records.length
  rowFor : ∀ n (h : n < records.length) (h' : n < rows.length), i.RowFor n records[n] rows[n]

/-- A record can be judged: it is no mapping, or a mapping that can be copied and gets a verdict. -/
def CanJudge (i : Inspection) (record : Value) : Prop :=
  record.isDict = true →
    (∃ copied, Document.copyable record = .ok copied) ∧ ∃ verdict, i.verdictOn record = .ok verdict

/-! ### One record -/

theorem answer_judge_of_not_isDict (h : record.isDict = false) :
    (i.judge record).answer = .ok .notMapping := by
  simp [judge, judgeDocument, h]

theorem answer_judge_of_isDict (h : record.isDict = true) :
    (i.judge record).answer =
      Document.copyable record >>= fun _ => (i.verdictOn record).map .judged := by
  simp only [judge, judgeDocument, h, if_true, Act.answer_bind, Act.answer_ofExcept, verdictOn]
  cases Document.copyable record with
  | error failure => rfl
  | ok copied =>
      cases (i.cat.validateData i.type record i.mode (some i.validator) i.exhaustive).answer <;> rfl

/-- What is judged about a record is shown in a row about it. -/
theorem rowFor_of_judge {j : Judgement} (h : (i.judge record).answer = .ok j) :
    i.RowFor index record (j.toValue index) := by
  cases hrecord : record.isDict with
  | false =>
      rw [answer_judge_of_not_isDict hrecord] at h
      cases h
      exact .notMapping hrecord (rowSays_toValue_notMapping index)
  | true =>
      rw [answer_judge_of_isDict hrecord] at h
      obtain ⟨_, _, hjudged⟩ := Act.bind_eq_ok.mp h
      obtain ⟨verdict, hverdict, rfl⟩ := Act.map_eq_ok.mp hjudged
      exact .judged verdict hrecord hverdict (rowSays_toValue_judged verdict index)

theorem exists_judge_iff : (∃ j, (i.judge record).answer = .ok j) ↔ i.CanJudge record := by
  unfold CanJudge
  cases hrecord : record.isDict with
  | false => simp [answer_judge_of_not_isDict hrecord]
  | true =>
      simp only [answer_judge_of_isDict hrecord, Act.bind_eq_ok, Act.map_eq_ok, forall_const]
      constructor
      · rintro ⟨_, copied, hcopied, verdict, hverdict, _⟩
        exact ⟨⟨copied, hcopied⟩, verdict, hverdict⟩
      · rintro ⟨⟨copied, hcopied⟩, verdict, hverdict⟩
        exact ⟨.judged verdict, copied, hcopied, verdict, hverdict, rfl⟩

/-- Plain data with texts for keys and numbers that can be written gets a verdict, if it is wrapped
through a self-contained registry. -/
theorem exists_verdictOn_of_reportable {r : RegistryId} {name : String}
    (hr : i.cat.SelfContained r) (ht : i.cat.Registers r name i.type)
    (hregistry : i.validator.registry = some r) {mark : Mark} {es : Entries Value}
    (hplain : ArePlainEntries es) (hreportable : AreReportableEntries es) :
    ∃ verdict, i.verdictOn (.dict mark es) = .ok verdict := by
  have hwhole := hplain.areWhole es
  obtain ⟨candidate, hcandidate, hcan⟩ : i.cat.Prepares r i.mode i.type es :=
    Catalog.prepares_of_reportable hr ht es hwhole hreportable
  have hdata : (Value.dict mark es).entries? = some es := rfl
  simp only [verdictOn, Catalog.validateData, hdata, Act.answer_bind, Act.answer_ofExcept,
    Act.ok_bind, Option.getD_some, hregistry, Option.some_or, copyable_of_whole hwhole, hcandidate]
  have hfindings : ∀ finding ∈ findings (i.cat.known (some r)) i.validator.excerpt
      (.dict none (i.cat.visible i.type candidate)) (i.cat.schemaOf i.type) i.mode,
      finding.isOk = true := by
    intro finding hfinding
    obtain ⟨issue, rfl⟩ := Catalog.exists_of_mem_findings_visible ht.fields ht.declared_isWritable
      hcan finding hfinding
    rfl
  cases henabled : i.validator.enabled with
  | false =>
      split
      · exact ⟨.success, by rw [collect, henabled]; rfl⟩
      · exact ⟨.success, by rw [answer_validate, henabled]; rfl⟩
  | true =>
      split
      · exact (collectAnswers_iff henabled).mpr hfindings
      · exact (validateAnswers_iff henabled).mpr fun finding hfinding =>
          hfindings finding (List.mem_of_mem_head? hfinding)

/-- Such data can be judged, if it is not too deep to be copied. -/
theorem canJudge_of_reportable {r : RegistryId} {name : String} (hr : i.cat.SelfContained r)
    (ht : i.cat.Registers r name i.type) (hregistry : i.validator.registry = some r)
    (hplain : record.IsPlain) (hreportable : record.IsReportable)
    (hdepth : record.depth ≤ Document.copiedDepth) : i.CanJudge record := by
  intro hrecord
  cases record with
  | dict mark es =>
      have hcopyable : Document.copyable (.dict mark es) = .ok (.dict mark es) := by
        rw [Document.copyable, Value.IsWhole.meets _ (Value.IsPlain.isWhole _ hplain),
          if_neg Bool.false_ne_true, if_neg (Nat.not_lt.mpr hdepth)]
      exact ⟨⟨_, hcopyable⟩, exists_verdictOn_of_reportable hr ht hregistry hplain.2 hreportable⟩
  | _ => cases hrecord

/-! ### All records -/

theorem rowsFor_of_judged (h : (Act.inTurn (records.map i.judge)).answer = .ok list) :
    i.RowsFor records (list.mapIdx Judgement.toValue) := by
  have hanswers : records.map (fun record => (i.judge record).answer) = list.map .ok := by
    rw [← Act.answer_inTurn_eq_ok.mp h, List.map_map]
    rfl
  have hlength : list.length = records.length := by
    simpa using (congrArg List.length hanswers).symm
  refine ⟨by rw [List.length_mapIdx, hlength], ?_⟩
  intro n hn hn'
  have hlist : n < list.length := hlength ▸ hn
  have hjudge : (i.judge records[n]).answer = .ok list[n] := by
    have hat := congrArg (fun answers => answers[n]?) hanswers
    simpa [hn, hlength] using hat
  rw [List.getElem_mapIdx]
  exact rowFor_of_judge hjudge

/-! ### Documents -/

variable {files : FileTree} {path : Path} {format : Format} {content : String} {document : Value}

theorem documents_of_not_list {v : Value} (h : ∀ mark items, v ≠ .list mark items) :
    v.documents = [v] := by
  cases v with
  | list mark items => exact absurd rfl (h mark items)
  | _ => rfl

theorem exists_mark_of_no_documents {v : Value} (h : v.documents = []) : ∃ mark, v = .list mark [] := by
  cases v with
  | list mark items => exact ⟨mark, congrArg (Value.list mark) h⟩
  | _ => cases h

/-- The results are the judgements on the records of what the document is taken for. -/
theorem answer_results (hcontents : Document.contents files path = .ok (format, content))
    (hparse : Document.parse format content i.cat.depth = .ok document) :
    (i.results files path).answer =
      (Act.inTurn ((Document.orEmpty document).documents.map i.judge)).answer.map fun list =>
        ⟨(i.cat.typeAt i.type).schemaName, i.mode, list⟩ := by
  have hload : Document.load files path i.cat.depth = .ok (Document.orEmpty document) := by
    rw [Document.load, hcontents, Act.ok_bind]
    show (Document.parse format content i.cat.depth).map Document.orEmpty = _
    rw [hparse]
    rfl
  rw [results, Act.answer_bind, Act.answer_ofExcept, hload, Act.ok_bind, judgeDocuments,
    Act.answer_bind]
  cases (Act.inTurn ((Document.orEmpty document).documents.map i.judge)).answer <;> rfl

theorem exists_results_iff (hcontents : Document.contents files path = .ok (format, content))
    (hparse : Document.parse format content i.cat.depth = .ok document) :
    (∃ js, (i.results files path).answer = .ok js) ↔
      ∀ record ∈ (Document.orEmpty document).documents, i.CanJudge record := by
  simp only [answer_results hcontents hparse, ← exists_judge_iff]
  constructor
  · rintro ⟨js, hjs⟩ record hrecord
    obtain ⟨list, hlist, _⟩ := Act.map_eq_ok.mp hjs
    exact Act.exists_answer_inTurn_iff.mp ⟨list, hlist⟩ _ (List.mem_map_of_mem hrecord)
  · intro h
    have hacts : ∀ act ∈ (Document.orEmpty document).documents.map i.judge,
        ∃ j, Act.answer act = .ok j := by
      intro act hact
      obtain ⟨record, hrecord, rfl⟩ := List.mem_map.mp hact
      exact h record hrecord
    obtain ⟨list, hlist⟩ := Act.exists_answer_inTurn_iff.mpr hacts
    exact ⟨_, Act.map_eq_ok.mpr ⟨list, hlist, rfl⟩⟩

/-- The results on a data file have a row for each record of it. A list that is not empty is the list
of the records; another document that does not count as false is one record. A document that counts as
false, the empty list among them, is taken for an empty mapping, and that is the record then. There are
results at all exactly if each of these records can be judged; with a self-contained registry this is
so if the mappings among them are plain, are not too deep, and have texts for keys and numbers that can
be written. -/
theorem rowsFor_results (i : Inspection)
    (hcontents : Document.contents files path = .ok (format, content))
    (hparse : Document.parse format content i.cat.depth = .ok document) :
    (∀ js, (i.results files path).answer = .ok js →
      ∃ rows, Report.member "validated" js.toValue = .ok (.list none rows) ∧
        (∀ mark items, document = .list mark items → items ≠ [] → i.RowsFor items rows) ∧
        ((∀ mark items, document ≠ .list mark items) → document.truthy = true →
          i.RowsFor [document] rows) ∧
        (document.truthy = false → i.RowsFor [.dict none []] rows)) ∧
    ((∃ js, (i.results files path).answer = .ok js) ↔
      ∀ record ∈ (Document.orEmpty document).documents, i.CanJudge record) ∧
    ∀ r name, i.cat.SelfContained r → i.cat.Registers r name i.type →
      i.validator.registry = some r →
      (∀ record ∈ (Document.orEmpty document).documents, record.isDict = true →
        record.IsPlain ∧ record.IsReportable ∧ record.depth ≤ Document.copiedDepth) →
      ∃ js, (i.results files path).answer = .ok js := by
  have hresults := answer_results hcontents hparse
  have hexists := exists_results_iff hcontents hparse
  refine ⟨?_, hexists, ?_⟩
  · intro js hjs
    rw [hresults] at hjs
    obtain ⟨list, hlist, rfl⟩ := Act.map_eq_ok.mp hjs
    refine ⟨list.mapIdx Judgement.toValue, Judgements.member_validated _, ?_, ?_, ?_⟩
    · rintro mark items rfl hitems
      have htruthy : (Value.list mark items).truthy = true := by simpa [Value.truthy] using hitems
      rw [Document.orEmpty, if_pos htruthy] at hlist
      exact rowsFor_of_judged hlist
    · intro hdocument htruthy
      rw [Document.orEmpty, if_pos htruthy, documents_of_not_list hdocument] at hlist
      exact rowsFor_of_judged hlist
    · intro hfalse
      rw [Document.orEmpty, hfalse] at hlist
      exact rowsFor_of_judged hlist
  · intro r name hr ht hregistry hrecords
    refine hexists.mpr fun record hrecord hdict => ?_
    obtain ⟨hplain, hreportable, hdepth⟩ := hrecords record hrecord hdict
    exact canJudge_of_reportable hr ht hregistry hplain hreportable hdepth hdict

/-- A directory with a schema file, and with a data file of accounts. -/
def accountFiles (data : String) : FileTree where
  home := "/w"
  entries := [
    (["s.json"], some (Text.encodeUtf8
      "\x7b\"schemas\": \x7b\"Account\": \x7b\"fields\": \x7b\"owner\": \"String\"\x7d\x7d\x7d\x7d")),
    (["d.json"], some (Text.encodeUtf8 data))]

/-- What the accounts are judged by. -/
def ofAccounts (data : String) : Except Failure Inspection :=
  ((ofRequest (accountFiles data) [] "Account" none false
    ⟨[.ofText "s.json"], none, false, false⟩).run {}).result

/-- Whether a document is a list of an empty mapping and a number. -/
def isMappingAndNumber : Value → Bool
  | .list none [.dict none [], .atom none (.int 5)] => true
  | _ => false

theorem contents_eq_of_passes {files : FileTree} {path : Path} {data : String}
    (h : Act.passes (fun c => c.1 == .json && c.2 == data) (Document.contents files path) = true) :
    Document.contents files path = .ok (.json, data) := by
  obtain ⟨⟨format, content⟩, hcontents, hsame⟩ := Act.exists_of_passes h
  obtain ⟨rfl, rfl⟩ : format = .json ∧ content = data := by simpa using hsame
  exact hcontents

theorem eq_of_isMappingAndNumber {document : Value} (h : isMappingAndNumber document = true) :
    document = .list none [.dict none [], .int 5] := by
  unfold isMappingAndNumber at h
  split at h
  · rfl
  · cases h

/-- An empty mapping and a number have one row each. -/
theorem rowsFor_results_of_accounts :
    ∃ i js rows, ofAccounts "[\x7b\x7d, 5]" = .ok i ∧
      (i.results (accountFiles "[\x7b\x7d, 5]") (.ofText "d.json")).answer = .ok js ∧
      Report.member "validated" js.toValue = .ok (.list none rows) ∧
      i.RowsFor [.dict none [], .int 5] rows := by
  have hcontents : Document.contents (accountFiles "[\x7b\x7d, 5]") (.ofText "d.json") =
      .ok (.json, "[\x7b\x7d, 5]") := contents_eq_of_passes (by decide +kernel)
  -- JSON is not unfolded, so the document is there before it is known what it is judged by.
  have hparse : ∃ document, Document.parse .json "[\x7b\x7d, 5]" = .ok document ∧
      isMappingAndNumber document = true := Act.exists_of_passes (by decide +kernel)
  obtain ⟨document, hparse, hdocument⟩ := hparse
  obtain rfl := eq_of_isMappingAndNumber hdocument
  have hopen : ∃ i, ofAccounts "[\x7b\x7d, 5]" = .ok i ∧
      Act.passes (fun _ => true)
        (i.results (accountFiles "[\x7b\x7d, 5]") (.ofText "d.json")).answer = true :=
    Act.exists_of_passes (by decide +kernel)
  obtain ⟨i, hi, hresults⟩ := hopen
  obtain ⟨js, hjs, _⟩ := Act.exists_of_passes hresults
  obtain ⟨rows, hrows, hlist, _⟩ := (rowsFor_results i hcontents hparse).1 js hjs
  exact ⟨i, js, rows, hi, hjs, hrows, hlist none _ rfl (by simp)⟩

/-- A list without records has a row nevertheless. -/
theorem not_rowsFor_results_of_empty_list :
    ∃ i js, ofAccounts "[]" = .ok i ∧
      (∃ c mark, Document.contents (accountFiles "[]") (.ofText "d.json") = .ok c ∧
        Document.parse c.1 c.2 i.cat.depth = .ok (.list mark [])) ∧
      (i.results (accountFiles "[]") (.ofText "d.json")).answer = .ok js ∧
      ∀ rows, Report.member "validated" js.toValue = .ok (.list none rows) →
        rows.length = 1 ∧ ¬ i.RowsFor [] rows := by
  have hcontents : Document.contents (accountFiles "[]") (.ofText "d.json") =
      .ok (.json, "[]") := contents_eq_of_passes (by decide +kernel)
  have hparse : ∃ document, Document.parse .json "[]" = .ok document ∧
      document.documents.isEmpty = true := Act.exists_of_passes (by decide +kernel)
  obtain ⟨document, hparse, hnone⟩ := hparse
  obtain ⟨mark, rfl⟩ := exists_mark_of_no_documents (List.isEmpty_iff.mp hnone)
  have hopen : ∃ i, ofAccounts "[]" = .ok i ∧
      Act.passes (fun js => js.list.length == 1)
        (i.results (accountFiles "[]") (.ofText "d.json")).answer = true :=
    Act.exists_of_passes (by decide +kernel)
  obtain ⟨i, hi, hresults⟩ := hopen
  obtain ⟨js, hjs, hone⟩ := Act.exists_of_passes hresults
  refine ⟨i, js, hi, ⟨_, mark, hcontents, hparse⟩, hjs, ?_⟩
  intro rows hrows
  have hlength : rows.length = 1 := by
    rw [Judgements.member_validated] at hrows
    obtain rfl : js.list.mapIdx Judgement.toValue = rows := by simpa using hrows
    rw [List.length_mapIdx]
    exact eq_of_beq hone
  refine ⟨hlength, fun h => ?_⟩
  have hnorows : rows.length = 0 := h.length_eq
  omega

end Inspection

end CommandLine

end TypedRecord
