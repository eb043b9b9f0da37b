import TypedRecord.Record.Sharing
import TypedRecord.Report
import TypedRecord.Session.Heap
import TypedRecord.Session.Step
import TypedRecord.Settings

/-!
# TypedRecord.Session.Run

Sessions: steps that share variables, record types, registries and one collecting sink.

Every step starts from what the one before left, also if that one failed. A record in a variable is
an object: an operation on it reads its full value from the heap, and the record that the operation
leaves behind is kept even if the operation fails.
-/

namespace TypedRecord

/-- What the steps of a session share. Variables hold references. `unfoldings` says how often an object
is unfolded inside itself where a step looks at all of it. -/
structure Session where
  catalog : Catalog := {}
  heap : Heap := {}
  bindings : List (String × Value) := []
  handles : List (String × TypeId) := [("ValidatedRecord", 0)]
  registries : List (String × RegistryId) := []
  collected : List Event := []
  unfoldings : Nat := 3
  deriving Inhabited

namespace Session

/-- The last entry under a name. -/
def lookUp? {α : Type} (name : String) (es : List (String × α)) : Option α :=
  (es.find? fun e => e.1 = name).map Prod.snd

/-! ### Names and values -/

/-- The full form of what is kept. -/
def full (s : Session) (kept : Value) : Value := s.heap.full s.unfoldings kept

/-- The full value of a variable. -/
def valueOf? (s : Session) (name : String) : Option Value := (lookUp? name s.bindings).map s.full

/-- The full value of a variable, which has to be there. -/
def valueOf (name : String) : Act Session Value := do
  match (← get).valueOf? name with
  | some v => pure v
  | none => throw .noVariable

/-- Keeps a value, and answers what stands for it. -/
def keep (v : Value) : Act Session Value :=
  modifyGet fun s =>
    let (kept, heap) := s.heap.keep v
    (kept, { s with heap := heap })

/-- Binds a variable to what stands for a value. -/
def bind (name : String) (kept : Value) : Act Session Unit :=
  modify fun s => { s with bindings := (name, kept) :: s.bindings }

/-- The full value of a term. Atoms get their marks here; new lists and mappings get theirs when they are
kept. -/
def evaluate (t : Term) : Act Session Value := do
  let s ← get
  Act.zoom (fun s : Session => s.heap.next)
    (fun n s => { s with heap := { s.heap with next := n } }) (t.eval s.valueOf?)

/-- The entries that pairs of terms spell. -/
def evaluatePairs (ps : TermPairs) : Act Session (Entries Value) := do
  let s ← get
  let entries ← Act.zoom (fun s : Session => s.heap.next)
    (fun n s => { s with heap := { s.heap with next := n } }) (Term.evalEntries s.valueOf? ps)
  pure (Entries.ofList entries)

/-- A term that must be a key. -/
def evaluateKey (t : Term) : Act Session Key := do
  let v ← evaluate t
  Act.ofExcept v.asKey

/-- The record type with a name. -/
def typeNamed (handle : String) : Act Session TypeId := do
  match lookUp? handle (← get).handles with
  | some t => pure t
  | none => throw .noVariable

/-- The registry with a name; an empty one is made at the first mention. -/
def registryNamed (name : String) : Act Session RegistryId :=
  modifyGet fun s =>
    match lookUp? name s.registries with
    | some r => (r, s)
    | none =>
      let (cat, r) := s.catalog.addRegistry
      (r, { s with catalog := cat, registries := (name, r) :: s.registries })

/-- The registry with a name, if one is named. -/
def registryNamed? (name : Option String) : Act Session (Option RegistryId) :=
  match name with
  | some name => some <$> registryNamed name
  | none => pure none

/-- A validator that is asked for. -/
def validatorFor (spec : ValidatorSpec) : Act Session Validator := do
  pure ⟨← registryNamed? spec.registry, spec.sink, spec.enabled, spec.excerpt⟩

/-- A validator, if one is asked for. -/
def validatorFor? (spec : Option ValidatorSpec) : Act Session (Option Validator) :=
  match spec with
  | some spec => some <$> validatorFor spec
  | none => pure none

/-- An operation on the catalog. -/
def onCatalog {α : Type} (act : Act Catalog α) : Act Session α :=
  Act.zoom Session.catalog (fun cat s => { s with catalog := cat }) act

/-! ### Records in variables -/

/-- A call on the record in a variable. The record it leaves is kept, whatever the result. -/
def call (name : String) (asked : Record.Call) : Act Session Record.Answer := do
  match ← valueOf name with
  | .record mark header data => do
    let s ← get
    let outcome := (asked.performShared s.catalog mark).run ⟨header, data⟩
    Act.notify outcome.notices
    let _ ← keep (outcome.state.toValue mark)
    Act.ofExcept outcome.result
  | _ => throw .unsupportedOperation

/-- A call that reads from the record in a variable. Reading may change a record, so the answer is what
the record after that yields. -/
def read (name : String) (asked : Record.Call) : Act Session Record.Answer := do
  let _ ← call name asked
  match ← valueOf name with
  | .record mark header data => do
    let s ← get
    Act.ofExcept ((asked.performShared s.catalog mark).run ⟨header, data⟩).result
  | _ => throw .unsupportedOperation

/-- The record in a variable. -/
def recordNamed (name : String) : Act Session Record := do
  match ← valueOf name with
  | .record _ header data => pure ⟨header, data⟩
  | _ => throw .unsupportedOperation

/-- The record that a step is about. -/
def theSubject (step : Step) : Act Session String :=
  match step.subject with
  | some name => pure name
  | none => throw .noVariable

/-- Keeps a new record in the variable of its step. -/
def keepSubject (step : Step) (r : Record) : Act Session Unit := do
  let kept ← keep (r.toValue none)
  match step.subject with
  | some name => bind name kept
  | none => pure ()

/-! ### Actions -/

/-- What a call answers, as the answer of a step. -/
def replyOf : Record.Answer → Reply
  | .nothing => .nothing
  | .flag b => .flag b
  | .value v => .value v
  | .entries es => .value (.dict none es)
  | .keys ks => .value (.list none (ks.map Value.ofKey))

/-- A mapping that data must be. -/
def entriesOf (v : Value) : Except Failure (Entries Value) :=
  match v.entries? with
  | some entries => .ok entries
  | none => .error .unsupportedOperation

/-- Whether two variables hold one and the same thing. -/
def sameKept (v w : Value) : Bool :=
  match v, w with
  | .atom _ (.object m _), .atom _ (.object n _) => m == n
  | v, w => v.identical w

/-- What stands for the value of a variable; it has to be there. -/
def keptIn (name : String) : Act Session Value := do
  match lookUp? name (← get).bindings with
  | some kept => pure kept
  | none => throw .noVariable

/-- What is done with variables. -/
def runOnVariables (action : Action) : Act Session (Option Reply) := do
  match action with
  | .assign name t => do
    let kept ← keep (← evaluate t)
    bind name kept
    pure (some (.value ((← get).full kept)))
  | .look name => do pure (some (.value (← valueOf name)))
  | .append name t => do
    match ← valueOf name with
    | .list mark items => do
      let v ← evaluate t
      let kept ← keep (.list mark (items ++ [v]))
      pure (some (.value ((← get).full kept)))
    | @Value.tuple .deque mark items => do
      let v ← evaluate t
      let kept ← keep (@Value.tuple .deque mark (items ++ [v]))
      pure (some (.value ((← get).full kept)))
    | .buffer mark data => do
      let byte ← Act.ofExcept (byteOf (← evaluate t))
      let kept ← keep (.buffer mark (data ++ [byte]))
      pure (some (.value ((← get).full kept)))
    | _ => throw .unsupportedOperation
  | .putItem name k t => do
    let target ← valueOf name
    let k ← evaluate k
    let v ← evaluate t
    let outcome := (SideData.assign (← get).catalog k v).run target
    Act.notify outcome.notices
    let kept ← keep outcome.state
    Act.ofExcept outcome.result
    pure (some (.value ((← get).full kept)))
  | .equal a b => do
    let v ← keptIn a
    let w ← keptIn b
    pure (some (.flag (← Act.ofExcept ((← get).heap.equal v w))))
  | .same a b => do
    let v ← keptIn a
    let w ← keptIn b
    pure (some (.flag (sameKept v w)))
  | .kind t => do
    let v ← evaluate t
    pure (some (.kind v.kind v.kindName))
  | _ => pure none

/-- What is done with record types. -/
def runOnTypes (step : Step) : Act Session (Option Reply) := do
  match step.action with
  | .define handle name fields registry description extendable => do
    let fields ← evaluatePairs fields
    let r ← registryNamed? registry
    let t ← onCatalog (Catalog.define name fields r description extendable)
    modify fun s => { s with handles := (handle, t) :: s.handles }
    pure (some (.type ((← get).catalog.typeName t)))
  | .derive name base declared => do
    let b ← typeNamed base
    let fields ← match declared.fields with
      | some fields => some <$> evaluatePairs fields
      | none => pure none
    let t ← onCatalog (Catalog.derive name b {
      fields := fields
      schemaName := declared.schemaName
      description := declared.description
      extendable := declared.extendable
      sideField := declared.sideField })
    modify fun s => { s with handles := (name, t) :: s.handles }
    pure (some (.type ((← get).catalog.typeName t)))
  | .extend handle fields => do
    let t ← typeNamed handle
    onCatalog (Catalog.extend t (← evaluatePairs fields))
    pure (some .nothing)
  | .reset handle => do
    onCatalog (Catalog.resetExtensions (← typeNamed handle))
    pure (some .nothing)
  | .describeType handle => do
    let t ← typeNamed handle
    pure (some (.description (← Act.ofExcept (describe ((← get).catalog.typeAt t)))))
  | .describe => do
    let r ← recordNamed (← theSubject step)
    pure (some (.description (← Act.ofExcept
      (describe ((← get).catalog.typeAt r.header.type.id)))))
  | .schema handle => do
    let t := (← get).catalog.typeAt (← typeNamed handle)
    pure (some (.schemas t.baseSchema t.extensions t.effectiveSchema))
  | _ => pure none

/-- What is done with registries. -/
def runOnRegistries (action : Action) : Act Session (Option Reply) := do
  match action with
  | .register registry name spec => do
    let r ← registryNamed registry
    let factory ← match spec with
      | .type handle => Factory.type <$> typeNamed handle
      | .bound schema => pure (.bound schema)
      | .echo => pure .echo
    onCatalog (Catalog.register r name factory)
    pure (some .nothing)
  | .registerType registry handle => do
    let r ← registryNamed registry
    onCatalog (Catalog.registerType r (← typeNamed handle))
    pure (some .nothing)
  | .unregister registry name => do
    onCatalog (Catalog.unregister (← registryNamed registry) name)
    pure (some .nothing)
  | .listRegistry registry => do
    let r ← registryNamed registry
    pure (some (.listing (((← get).catalog.registryAt r).sortedNames.map Key.str)))
  | .lookUp registry name => do
    let r ← registryNamed registry
    let cat := (← get).catalog
    let factory ← Act.ofExcept (cat.factory r name)
    let type := match factory with
      | .type t => some (cat.typeName t)
      | _ => none
    let known := (cat.registryAt r).has name
    pure (some (.registered known known factory type))
  | .create registry name data mode => do
    let r ← registryNamed registry
    let data ← evaluate data
    let cat := (← get).catalog
    let factory ← Act.ofExcept (cat.factory r name)
    pure (some (.value (← Act.lift (cat.build factory mode data))))
  | _ => pure none

/-- What is judged without making records. -/
def runOnData (action : Action) : Act Session (Option Reply) := do
  match action with
  | .judge handle data mode exhaustive spec => do
    let t ← typeNamed handle
    let data ← evaluate data
    let v ← validatorFor? spec
    let cat := (← get).catalog
    pure (some (.verdict (← Act.lift (cat.validateData t data mode v exhaustive))))
  | .judgeDocuments handle documents mode exhaustive spec => do
    let t ← typeNamed handle
    let documents ← evaluate documents
    let v ← validatorFor spec
    let some documents := documents.elements? | throw .wrongKind
    let cat := (← get).catalog
    let judge := TypedRecord.judgeDocument cat t mode v exhaustive
    let judged ← Act.lift (TypedRecord.judgeDocuments cat t mode judge documents)
    pure (some (.value judged.toValue))
  | .validate data schema mode exhaustive label spec => do
    let data ← evaluate data
    let schema ← evaluatePairs schema
    let v ← validatorFor spec
    Act.ofExcept (v.fathoms (schema.map Prod.snd))
    let known := (← get).catalog.known v.registry
    let act := if exhaustive then collect known v data schema mode label
      else TypedRecord.validate known v data schema mode label
    pure (some (.verdict (← Act.lift act)))
  | .check value descriptor spec => do
    let value ← evaluate value
    let declared ← evaluate descriptor
    let v ← validatorFor spec
    Act.ofExcept (v.fathoms [declared])
    let known := (← get).catalog.known v.registry
    pure (some (.flag (← Act.lift (TypedRecord.check known v value declared))))
  | .wrap value descriptor registry mode => do
    let value ← evaluate value
    let declared ← Act.ofExcept (← evaluate descriptor).fathomed
    let d ← Act.ofExcept (declared.readDescriptor.mapError .malformedDescriptor)
    let r ← registryNamed? registry
    let cat := (← get).catalog
    let replacement ← Act.lift (wrap? cat mode r false d value)
    pure (some (.wrapped (replacement.getD value) replacement.isNone))
  | _ => pure none

/-- How records are made. -/
def runOnNewRecords (files : FileTree) (env : Environment) (step : Step) :
    Act Session (Option Reply) := do
  match step.action with
  | .make handle data mode spec registry sink checked => do
    let t ← typeNamed handle
    let data ← evaluate data
    let v ← validatorFor? spec
    let r ← registryNamed? registry
    let make := if checked then Record.makeChecked else Record.make
    let (verdict, record) ← Act.lift (make (← get).catalog t data mode v r sink)
    keepSubject step record
    pure (some (.flag verdict.valid))
  | .makeFromSettings handle data settings mode registry sink => do
    let t ← typeNamed handle
    let data ← evaluate data
    let settings ← match settings with
      | some ps => do
        let entries ← evaluatePairs ps
        Act.ofExcept ((Settings.read (.dict none entries)).mapError fun _ => .refusedOptions)
      | none => Act.lift (Settings.load files env none)
    let named ← registryNamed? registry
    let cat := (← get).catalog
    let r := named.or (cat.registryOf t)
    let v := settings.validator r (if sink = .none then .logging else sink)
    let (verdict, record) ← Act.lift
      (Record.make cat t data (mode.getD settings.defaultMode) (some v) r sink)
    keepSubject step record
    pure (some (.flag verdict.valid))
  | _ => pure none

/-- What is done with the record that a step is about. -/
def runOnSubject (step : Step) : Act Session (Option Reply) := do
  match step.action with
  | .set field t => do
    let name ← theSubject step
    let _ ← recordNamed name
    let field ← evaluateKey field
    let v ← evaluate t
    pure (some (replyOf (← call name (.set field v))))
  | .setItem field t => do
    let name ← theSubject step
    let _ ← recordNamed name
    let field ← evaluateKey field
    let v ← evaluate t
    pure (some (replyOf (← call name (.assign field v))))
  | .update data => do
    let name ← theSubject step
    let _ ← recordNamed name
    let fields ← Act.ofExcept (entriesOf (← evaluate data))
    pure (some (replyOf (← call name (.update fields))))
  | .get field default => do
    let name ← theSubject step
    let _ ← recordNamed name
    let field ← evaluateKey field
    let default ← evaluate default
    pure (some (replyOf (← read name (.get field default))))
  | .getItem field => do
    let name ← theSubject step
    let _ ← recordNamed name
    let field ← evaluateKey field
    pure (some (replyOf (← read name (.getPresent field))))
  | .has field => do
    let r ← recordNamed (← theSubject step)
    let field ← evaluateKey field
    pure (some (.membership (r.has field) (r.has field)))
  | .keys => do
    let r ← recordNamed (← theSubject step)
    pure (some (.listing r.keys))
  | .plain => do
    let r ← recordNamed (← theSubject step)
    if (Value.dict none r.data).meets Value.isMadePlain then throw .circular
    pure (some (.value (.dict none r.toPlain)))
  | .shown => do
    let r ← recordNamed (← theSubject step)
    pure (some (.text (r.toValue none).shown))
  | .hash => do
    let _ ← recordNamed (← theSubject step)
    throw .wrongKind
  | _ => pure none

/-- What is done with the side data of the record that a step is about. -/
def runOnSideData (step : Step) : Act Session (Option Reply) := do
  match step.action with
  | .sidePut owner key t => do
    let name ← theSubject step
    let _ ← recordNamed name
    let owner ← evaluate owner
    let key ← evaluate key
    let v ← evaluate t
    pure (some (replyOf (← call name (.sidePut owner key v))))
  | .sideFind owner key default => do
    let name ← theSubject step
    let _ ← recordNamed name
    let owner ← evaluate owner
    let key ← evaluate key
    let default ← evaluate default
    pure (some (replyOf (← read name (.sideFind owner key default))))
  | .sideHas owner => do
    let name ← theSubject step
    let _ ← recordNamed name
    let owner ← evaluate owner
    pure (some (replyOf (← call name (.sideHas owner))))
  | .sideAll owner => do
    let name ← theSubject step
    let _ ← recordNamed name
    let owner ← evaluate owner
    pure (some (replyOf (← read name (.sideAll owner))))
  | .sideClear owner => do
    let name ← theSubject step
    let _ ← recordNamed name
    let owner ← evaluate owner
    pure (some (replyOf (← call name (.sideClear owner))))
  | .sideOwners => do
    let name ← theSubject step
    pure (some (replyOf (← call name .sideOwners)))
  | _ => pure none

/-- What is asked of the collecting sink. -/
def runOnEvents (action : Action) : Act Session (Option Reply) := do
  match action with
  | .lastEvent => do pure (some (.event (← get).collected.getLast?))
  | .eventsOf severity => do
    pure (some (.events ((← get).collected.filter fun e => e.severity = severity)))
  | .clearEvents => do
    modify fun s => { s with collected := [] }
    pure (some (.number 0))
  | _ => pure none

/-- The first answer that several ways to run an action give. -/
def firstAnswer : List (Act Session (Option Reply)) → Act Session Reply
  | [] => throw .unsupportedOperation
  | way :: ways => do
    match ← way with
    | some answer => pure answer
    | none => firstAnswer ways

/-- Runs the action of a step. -/
def perform (files : FileTree) (env : Environment) (step : Step) : Act Session Reply :=
  firstAnswer [
    runOnVariables step.action, runOnTypes step, runOnRegistries step.action,
    runOnData step.action, runOnNewRecords files env step, runOnSubject step, runOnSideData step,
    runOnEvents step.action]

/-! ### Steps -/

/-- How deep the descriptor that a term stands for leads into what it describes. -/
def declaredDepth (s : Session) : Term → Nat
  | .atom a => (Value.atom none a).declaredDepth
  | .descriptor text => (Value.str text).declaredDepth
  | .variable name => ((lookUp? name s.bindings).map Value.declaredDepth).getD 0
  | _ => 0

/-- How often a step has to unfold an object inside itself. Three times is enough for side data, which
lies two mappings deep in a record; descriptors may lead deeper. -/
def unfoldingsFor (s : Session) (action : Action) : Nat :=
  match action.descriptors? with
  | none => 3
  | some declared => 3 + s.catalog.depth + (declared.map s.declaredDepth).foldl max 0

/-- The session as a step finds it: what is declared is what the objects that declare it have become. -/
def prepared (s : Session) (action : Action) : Session :=
  let s := { s with unfoldings := s.unfoldingsFor action }
  { s with catalog := s.catalog.mapSchemas (s.heap.refreshEntries s.unfoldings) }

/-- What an answer leaves in a variable. Answers that are no values are opaque things there. -/
def Reply.kept : Reply → Value
  | .nothing => .nil
  | .flag b => .bool b
  | .number n => .int n
  | .text s => .str s
  | .value v | .wrapped v _ => v
  | .type t => .atom none (.type t)
  | .registered a b factory type =>
    let factory : Atom := match type, factory with
      | some t, _ => .type t
      | none, factory => .factory none factory.word
    .list none [.bool a, .bool b, .atom none factory]
  | .events es => .list none (es.map fun _ => .atom none (.object none "set"))
  | .membership a b => .list none [.bool a, .bool b]
  | .listing ks =>
    let keys := ks.map Value.ofKey
    .list none [.list none keys, .list none keys, .int keys.length]
  | .kind k name => .list none [.str k.word, .str name]
  | .event none => .nil
  | _ => .atom none (.object none "set")

/-- An item of a value, by its position. -/
def itemAt (v : Value) (i : Int) : Except Failure Value :=
  match v.elements?, v.entries? with
  | _, some entries =>
    match entries.find? (.atom none (.int i)) with
    | some item => .ok item
    | none => .error (.absentField (.atom none (.int i)))
  | some items, none => do
    let i ← placeOf items.length i
    .ok (items.getD i .nil)
  | none, none => .error .wrongKind

/-- Keeps the answer of a step where the step asks for it. -/
def save (saving : Option Saving) (r : Reply) : Act Session Unit :=
  match saving with
  | none => pure ()
  | some saving => do
    let v := Reply.kept r
    let v ← match saving.index with
      | none => pure v
      | some i => Act.ofExcept (itemAt v i)
    let v ← match v with
      | .atom none a => evaluate (.atom a)
      | v => pure v
    bind saving.name (← keep v)

/-- What can be shown of a value: everything, unless an object in it holds itself. -/
def presentable (v : Value) : Except Failure Value := if v.isCut then .error .circular else .ok v

/-- What can be shown of a reply. -/
def presentableReply (r : Reply) : Except Failure Reply :=
  match r with
  | .value v => (presentable v).map .value
  | .wrapped v same => (presentable v).map (.wrapped · same)
  | .schemas base extended effective =>
    if (base ++ extended).any fun e => e.2.isCut then .error .circular
    else .ok (.schemas base extended effective)
  | r => .ok r

/-- Whether a step shows the verdict on the data its subject was made of. -/
def showsConstruction : Action → Bool
  | .make .. | .makeFromSettings .. => true
  | _ => false

/-- Whether a step shows the last verdict on its subject. -/
def showsLast : Action → Bool
  | .make .. | .makeFromSettings .. | .set .. | .setItem .. | .update .. => true
  | _ => false

/-- Runs a step. Its subject is shown also if the step fails. -/
def step (files : FileTree) (env : Environment) (s : Session) (st : Step) :
    Session × StepReport :=
  let act : Act Session Reply := do
    let reply ← perform files env st
    save st.saving reply
    pure reply
  let outcome := act.run (s.prepared st.action)
  let after : Session := { outcome.state with
    collected := outcome.state.collected ++ outcome.notices.filterMap Notice.event? }
  let result := do presentableReply (← outcome.result)
  let report : StepReport := { result := result, notices := outcome.notices }
  match st.subject.bind fun name => after.valueOf? name with
  | some (.record mark header data) =>
    match presentable (.record mark header data) with
    | .error failure => (after, { report with result := .error failure })
    | .ok subject => (after, { report with
        subject := some subject
        construction := if showsConstruction st.action then some header.initialVerdict else none
        last := if showsLast st.action then some header.lastVerdict else none })
  | _ => (after, report)

/-- Runs steps one after the other. -/
def run (files : FileTree) (env : Environment) : Session → List Step → List StepReport
  | _, [] => []
  | s, st :: rest =>
    let (after, report) := step files env s st
    report :: run files env after rest

end Session

end TypedRecord
