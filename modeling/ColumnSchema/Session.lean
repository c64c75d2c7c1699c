import ColumnSchema.Analysis

/-!
# Sessions

A session builds one definition step by step, analyzes it, stores the result as a
column and takes a stored column back as a definition. A step that fails leaves
the session as it was, except that a failed analysis withdraws the earlier one.
-/

namespace ColumnSchema

/-- What a session holds: at most one definition, one analyzed column and one
stored column, and the policy for names. -/
structure Session where
  definition : Option Definition := none
  analyzed : Option Column := none
  stored : Option CatalogColumn := none
  names : NamePolicy := {}
  deriving DecidableEq, Repr

namespace Session

/-- The parts that a step can find absent. -/
inductive Part where
  | definition
  | analyzed
  | column
  deriving DecidableEq, Repr

/-- The part as messages name it. -/
def Part.name : Part → String
  | definition => "definition"
  | analyzed => "analyzed"
  | column => "column"

/-- Why a step fails. -/
inductive Fault where
  | absent (part : Part)
  | unknownKeyword (fault : KeywordFault)
  | rejected (rejection : Rejection)
  deriving DecidableEq, Repr

/-- A change to one attribute of the definition. -/
inductive Edit where
  | key (value : Bool)
  | nullable (value : Bool)
  /-- The keyword of the aggregation, or none to remove it. -/
  | aggregation (keyword : Option String)
  | defaultText (value : String)
  | comment (value : String)
  deriving DecidableEq, Repr

/-- A step of a session. -/
inductive Step where
  /-- Starts over with a definition. -/
  | define (definition : Definition)
  | edit (edit : Edit)
  | setNames (policy : NamePolicy)
  /-- Analysis under the default policy for names. -/
  | analyze (olap : Bool)
  /-- Analysis under the session's policy for names. -/
  | analyzeUnderPolicy (olap : Bool)
  /-- Stores the analyzed column. -/
  | store
  /-- Takes the stored column back as the definition. -/
  | recall
  /-- Compares the definition and the analyzed column with the stored one. -/
  | compare
  deriving DecidableEq, Repr

/-- What a step shows when it succeeds. -/
inductive Reply where
  | definition (definition : Definition)
  | names (policy : NamePolicy)
  | analyzed (column : Column)
  | stored (column : CatalogColumn)
  | comparison (definitionEqual : Bool) (columnEqual : Option Bool)
  deriving DecidableEq, Repr

/-- The definition after an edit. -/
def Edit.apply (definition : Definition) : Edit → Except Fault Definition
  | key value => .ok { definition with key := value }
  | nullable value => .ok { definition with nullable := value }
  | aggregation none => .ok { definition with aggregation := none }
  | aggregation (some keyword) =>
    match Aggregation.ofKeyword keyword with
    | .ok found => .ok { definition with aggregation := some found }
    | .error fault => .error (.unknownKeyword fault)
  | defaultText value => .ok { definition with defaultText := some value }
  | comment value => .ok { definition with comment := value }

/-- Replaces the definition by the outcome of an edit. -/
def applyEdit (session : Session) (edit : Edit) : Session × Except Fault Reply :=
  match session.definition with
  | none => (session, .error (.absent .definition))
  | some definition =>
    match edit.apply definition with
    | .ok edited => ({ session with definition := some edited }, .ok (.definition edited))
    | .error fault => (session, .error fault)

/-- Replaces the analyzed column by the outcome of an analysis. -/
def applyAnalysis (session : Session) (settings : TableSettings) :
    Session × Except Fault Reply :=
  match session.definition with
  | none => (session, .error (.absent .definition))
  | some definition =>
    match definition.analyze settings with
    | .ok column => ({ session with analyzed := some column }, .ok (.analyzed column))
    | .error rejection =>
      ({ session with analyzed := none }, .error (.rejected rejection))

/-- Compares with the stored column. Without an analyzed column there is only the
definition to compare. -/
def comparison (session : Session) : Except Fault Reply :=
  match session.definition, session.stored with
  | none, _ => .error (.absent .definition)
  | some _, none => .error (.absent .column)
  | some definition, some column =>
    .ok (.comparison (definition = Definition.ofCatalog column)
      (session.analyzed.map fun analyzed => analyzed.toCatalog = column))

/-- The session after a step, with what the step shows. -/
def step (session : Session) : Step → Session × Except Fault Reply
  | .define definition =>
    ({ session with definition := some definition }, .ok (.definition definition))
  | .edit edit => session.applyEdit edit
  | .setNames policy => ({ session with names := policy }, .ok (.names policy))
  | .analyze olap => session.applyAnalysis { olap }
  | .analyzeUnderPolicy olap => session.applyAnalysis { olap, names := session.names }
  | .store =>
    match session.analyzed with
    | some column =>
      let stored := column.toCatalog
      ({ session with stored := some stored }, .ok (.stored stored))
    | none => (session, .error (.absent .analyzed))
  | .recall =>
    match session.stored with
    | some column =>
      let definition := Definition.ofCatalog column
      ({ session with definition := some definition }, .ok (.definition definition))
    | none => (session, .error (.absent .column))
  | .compare => (session, session.comparison)

end Session

end ColumnSchema
