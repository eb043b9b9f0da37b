import TypedRecord.Introspection
import TypedRecord.Session.Term

/-!
# TypedRecord.Session.Step

What may be done in a session, and what is answered.

An `Action` is a request with everything named that it works on: variables, record types and
registries go by names, values by terms. A `Step` is an action together with the record it is about
and the variable that is to keep its answer.
-/

namespace TypedRecord

/-- Pairs of terms, which spell a mapping. -/
abbrev TermPairs : Type := List (Term × Term)

/-- A validator as it is asked for. The registry goes by its name. -/
structure ValidatorSpec where
  registry : Option String := none
  sink : Sink := .none
  enabled : Bool := true
  excerpt : Int := 2
  deriving Inhabited

/-- What a factory is asked to be. A record type goes by its name. -/
inductive FactorySpec
  | type (handle : String)
  | bound (schema : String)
  | echo
  deriving Inhabited

/-- The attributes that a derived record type declares for itself. -/
structure Declared where
  fields : Option TermPairs := none
  schemaName : Option String := none
  description : Option String := none
  extendable : Option Bool := none
  sideField : Option String := none
  deriving Inhabited

/-- What may be done. Where an action is about a record, that record is the subject of its step. -/
inductive Action
  -- variables
  | assign (name : String) (value : Term)
  | look (name : String)
  | append (name : String) (value : Term)
  | putItem (name : String) (key value : Term)
  | equal (a b : String)
  | same (a b : String)
  | kind (value : Term)
  -- record types
  | define (handle name : String) (fields : TermPairs) (registry : Option String)
      (description : String) (extendable : Bool)
  | derive (name base : String) (declared : Declared)
  | extend (type : String) (fields : TermPairs)
  | reset (type : String)
  | describeType (type : String)
  | describe
  | schema (type : String)
  -- registries
  | register (registry name : String) (factory : FactorySpec)
  | registerType (registry type : String)
  | unregister (registry name : String)
  | listRegistry (registry : String)
  | lookUp (registry name : String)
  | create (registry name : String) (data : Term) (mode : Mode)
  -- validation
  | judge (type : String) (data : Term) (mode : Mode) (exhaustive : Bool)
      (validator : Option ValidatorSpec)
  | judgeDocuments (type : String) (documents : Term) (mode : Mode) (exhaustive : Bool)
      (validator : ValidatorSpec)
  | validate (data : Term) (schema : TermPairs) (mode : Mode) (exhaustive : Bool)
      (label : Option String) (validator : ValidatorSpec)
  | check (value descriptor : Term) (validator : ValidatorSpec)
  | wrap (value descriptor : Term) (registry : Option String) (mode : Mode)
  -- records
  | make (type : String) (data : Term) (mode : Mode) (validator : Option ValidatorSpec)
      (registry : Option String) (sink : Sink) (checked : Bool)
  | makeFromSettings (type : String) (data : Term) (settings : Option TermPairs)
      (mode : Option Mode) (registry : Option String) (sink : Sink)
  | set (field value : Term)
  | setItem (field value : Term)
  | update (data : Term)
  | get (field default : Term)
  | getItem (field : Term)
  | has (field : Term)
  | keys
  | plain
  | shown
  | hash
  -- side data
  | sidePut (owner key value : Term)
  | sideFind (owner key default : Term)
  | sideHas (owner : Term)
  | sideAll (owner : Term)
  | sideClear (owner : Term)
  | sideOwners
  -- the collecting sink
  | lastEvent
  | eventsOf (severity : Severity)
  | clearEvents
  deriving Inhabited

/-- The descriptors that an action names itself, if it looks at data along descriptors. -/
def Action.descriptors? : Action → Option (List Term)
  | .check _ declared _ | .wrap _ declared _ _ => some [declared]
  | .validate _ fields .. => some (fields.map Prod.snd)
  | .create .. | .judge .. | .judgeDocuments .. | .make .. | .makeFromSettings .. | .putItem ..
  | .set .. | .setItem .. | .update .. | .sidePut .. => some []
  | _ => none

/-- Where the answer of a step is kept: in a variable, all of it or one of its items. -/
structure Saving where
  name : String
  index : Option Int := none
  deriving Inhabited

/-- A step of a session. -/
structure Step where
  action : Action
  subject : Option String := none
  saving : Option Saving := none
  deriving Inhabited

/-- What is answered. -/
inductive Reply
  | nothing
  | flag (b : Bool)
  | number (n : Nat)
  | text (s : String)
  | value (v : Value)
  | type (name : TypeName)
  | schemas (base extended effective : Schema)
  | description (d : SchemaDescription)
  | verdict (v : Verdict)
  | membership (viaMethod viaOperator : Bool)
  | listing (keys : List Key)
  | registered (isSchema contained : Bool) (factory : Factory) (type : Option TypeName)
  | wrapped (v : Value) (same : Bool)
  | kind (k : Kind) (name : String)
  | event (e : Option Event)
  | events (es : List Event)
  deriving Inhabited

/-- Everything that a step shows: its answer or the failure, the subject after the step, how the
subject was judged when it was made and last, and what was reported. -/
structure StepReport where
  result : Except Failure Reply
  subject : Option Value := none
  construction : Option Verdict := none
  last : Option (Option Verdict) := none
  notices : List Notice := []

end TypedRecord
