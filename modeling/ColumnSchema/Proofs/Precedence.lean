import ColumnSchema.Proofs.Admission
import ColumnSchema.Proofs.Dependence
import Mathlib.Order.WellFounded

/-!
# Which rule refuses a definition

Analysis enforces nine rules. Each of them is stated here by itself, for the definition
and the table alone, whether or not the others are kept. A definition is accepted
exactly if it keeps all nine, and otherwise it is refused for the first one that it
breaks.
-/

namespace ColumnSchema

/-- The rules for a definition, in the order in which analysis enforces them. -/
inductive Rule where
  /-- There is a name and a type. -/
  | presence
  /-- The policy accepts the name. -/
  | name
  /-- The type resolves. -/
  | type
  /-- The aggregation is defined for the type. -/
  | aggregation
  /-- A key in a table for analytical processing is not floating-point. -/
  | floatKey
  /-- A key is not aggregated. -/
  | aggregatedKey
  /-- A key in a table for analytical processing is no sketch. -/
  | sketchKey
  /-- An HLL column declares no default. -/
  | sketchDefault
  /-- The default of any other column is valid. -/
  | defaultText
  deriving DecidableEq, Repr

namespace Rule

/-- The place of a rule in the order. -/
def rank : Rule → Nat
  | presence => 1
  | name => 2
  | type => 3
  | aggregation => 4
  | floatKey => 5
  | aggregatedKey => 6
  | sketchKey => 7
  | sketchDefault => 8
  | defaultText => 9

theorem rank_injective : Function.Injective rank := by
  intro left right
  cases left <;> cases right <;> decide

theorem rank_pos (rule : Rule) : 1 ≤ rule.rank := by
  cases rule <;> decide

theorem rank_le (rule : Rule) : rule.rank ≤ 9 := by
  cases rule <;> decide

end Rule

/-- The rule that a rejection is about. -/
def Rejection.rule : Rejection → Rule
  | missingField => .presence
  | invalidName _ _ => .name
  | unsupportedDataType _ | invalidType _ => .type
  | incompatibleAggregate _ _ => .aggregation
  | floatKey => .floatKey
  | keyWithAggregate _ => .aggregatedKey
  | sketchKey _ => .sketchKey
  | hllDefault => .sketchDefault
  | invalidNumber _ | numberOutOfRange _ _ | invalidLargeInt _ | largeIntOutOfRange _
  | invalidFloat _ | precisionLoss _ | invalidDecimal _ | decimalOverflow _ _ _ _
  | invalidDate _ | defaultTooLong _ | unsupportedType _ => .defaultText

theorem Rejection.IsLiteralFault.rule_eq {rejection : Rejection}
    (literal : rejection.IsLiteralFault) : rejection.rule = .defaultText := by
  cases rejection with
  | missingField | invalidName | unsupportedDataType | invalidType
  | incompatibleAggregate | floatKey | keyWithAggregate | sketchKey | hllDefault =>
      exact literal.elim
  | _ => rfl

/-- Resolution refuses a declaration for its type. -/
theorem TypeDecl.refuses_resolve (decl : TypeDecl) :
    Outcome.Refuses (·.rule = .type) decl.resolve := by
  by_cases time : decl.primitive = .time
  · rw [resolve_of_time time]
    rfl
  · apply (refuses_resolve_of_ne_time time).mono
    rintro _ ⟨fault, rfl⟩
    rfl

namespace Definition

/-! ## The rules -/

/-- The definition declares a type and that resolves to this one. -/
def HasType (definition : Definition) (type : ScalarType) : Prop :=
  ∃ decl, definition.type = some decl ∧ decl.resolve = .ok type

/-- The definition breaks the rule in a table with the given settings, and is refused
with this rejection if it is refused for that. A rule about something that the
definition does not have is not broken. -/
inductive Breaks (definition : Definition) (settings : TableSettings) :
    Rule → Rejection → Prop where
  | presence (absent : definition.name = none ∨ definition.name = some "" ∨
        definition.type = none) :
      Breaks definition settings .presence .missingField
  | name {name : String} {fault : NameFault} (named : definition.name = some name)
      (refused : settings.names.fault? name = some fault) :
      Breaks definition settings .name (.invalidName name fault)
  | type {decl : TypeDecl} {rejection : Rejection} (declared : definition.type = some decl)
      (refused : decl.resolve = .error rejection) :
      Breaks definition settings .type rejection
  | aggregation {type : ScalarType} {aggregation : Aggregation}
      (typed : definition.HasType type)
      (aggregated : definition.aggregation = some aggregation)
      (incompatible : aggregation.isCompatible type.primitive = false) :
      Breaks definition settings .aggregation (.incompatibleAggregate aggregation type)
  | floatKey {type : ScalarType} (typed : definition.HasType type)
      (key : definition.key = true) (olap : settings.olap = true)
      (floating : type = .float ∨ type = .double) :
      Breaks definition settings .floatKey .floatKey
  | aggregatedKey (key : definition.key = true) (aggregated : definition.aggregation ≠ none) :
      Breaks definition settings .aggregatedKey (.keyWithAggregate definition.shownName)
  | sketchKey {type : ScalarType} (typed : definition.HasType type)
      (key : definition.key = true) (olap : settings.olap = true)
      (sketch : type = .hll ∨ type = .bitmap) :
      Breaks definition settings .sketchKey (.sketchKey definition.shownName)
  | sketchDefault (typed : definition.HasType .hll)
      (declared : definition.defaultText ≠ none) :
      Breaks definition settings .sketchDefault .hllDefault
  | defaultText {type : ScalarType} {text : String} {rejection : Rejection}
      (typed : definition.HasType type) (plain : type ≠ .hll)
      (declared : definition.defaultText = some text)
      (refused : type.checkDefault text = .error rejection) :
      Breaks definition settings .defaultText rejection

/-- The definition does not break the rule. -/
def Keeps (definition : Definition) (settings : TableSettings) (rule : Rule) : Prop :=
  ∀ rejection, ¬ definition.Breaks settings rule rejection

variable {definition : Definition} {settings : TableSettings}
variable {name : String} {type : ScalarType} {rejection : Rejection}

theorem HasType.unique {type' : ScalarType} (typed : definition.HasType type)
    (typed' : definition.HasType type') : type = type' := by
  obtain ⟨decl, declared, resolved⟩ := typed
  obtain ⟨_, declared', resolved'⟩ := typed'
  cases declared.symm.trans declared'
  cases resolved.symm.trans resolved'
  rfl

theorem shownName_eq (named : definition.name = some name) : definition.shownName = name := by
  rw [shownName, named, Option.getD_some]

/-- The rejection tells which rule was broken. -/
theorem Breaks.rule_eq {rule : Rule} (broken : definition.Breaks settings rule rejection) :
    rejection.rule = rule := by
  cases broken with
  | type _ refused => exact (TypeDecl.refuses_resolve _).of_eq_error refused
  | @defaultText type text _ _ _ _ refused =>
      exact ((type.refuses_checkDefault text).of_eq_error refused).rule_eq
  | _ => rfl

/-! ## What each check enforces -/

theorem nameAndType_eq_error :
    definition.nameAndType = .error rejection ↔
      definition.Breaks settings .presence rejection := by
  constructor
  · intro refused
    rw [nameAndType.eq_def] at refused
    split at refused
    next name decl named declared =>
      split at refused
      next empty =>
        cases refused
        exact .presence (.inr (.inl (String.isEmpty_iff.mp empty ▸ named)))
      next => cases refused
    next incomplete =>
      cases refused
      apply Breaks.presence
      by_contra present
      obtain ⟨named, -, declared⟩ := by simpa only [not_or] using present
      obtain ⟨name, named⟩ := Option.ne_none_iff_exists'.mp named
      obtain ⟨decl, declared⟩ := Option.ne_none_iff_exists'.mp declared
      exact incomplete name decl named declared
  · intro broken
    cases broken with
    | presence absent =>
        rw [nameAndType.eq_def]
        split
        next name decl named declared =>
          have empty : name = "" := by simpa [named, declared] using absent
          rw [if_pos (String.isEmpty_iff.mpr empty)]
        next => rfl

theorem check_eq_error (named : definition.name = some name) :
    settings.names.check name = .error rejection ↔
      definition.Breaks settings .name rejection := by
  rw [NamePolicy.check_eq_error]
  constructor
  · rintro ⟨fault, found, rfl⟩
    exact .name named found
  · intro broken
    cases broken with
    | name named' found =>
        cases named.symm.trans named'
        exact ⟨_, found, rfl⟩

theorem resolve_eq_error {decl : TypeDecl} (declared : definition.type = some decl) :
    decl.resolve = .error rejection ↔ definition.Breaks settings .type rejection := by
  constructor
  · exact .type declared
  · intro broken
    cases broken with
    | type declared' refused =>
        cases declared.symm.trans declared'
        exact refused

theorem checkAggregation_eq_error (typed : definition.HasType type) :
    definition.checkAggregation type = .error rejection ↔
      definition.Breaks settings .aggregation rejection := by
  rw [checkAggregation.eq_def]
  constructor
  · intro refused
    split at refused
    next => cases refused
    next aggregation aggregated =>
      split at refused
      next => cases refused
      next incompatible =>
        cases refused
        exact .aggregation typed aggregated (Bool.eq_false_iff.mpr incompatible)
  · intro broken
    cases broken with
    | aggregation typed' aggregated incompatible =>
        cases typed.unique typed'
        simp [aggregated, incompatible]

/-- Refuses on a condition. -/
def refuseIf (condition : Bool) (rejection : Rejection) : Except Rejection Unit :=
  if condition then .error rejection else .ok ()

theorem refuseIf_eq_error {condition : Bool} {given : Rejection} :
    refuseIf condition given = .error rejection ↔ condition = true ∧ given = rejection := by
  rw [refuseIf]
  cases condition with
  | false => simp
  | true => simp

/-- The check of the key enforces three rules one after the other. -/
theorem checkKey_eq (olap : Bool) :
    definition.checkKey name type olap = (do
      refuseIf (definition.key && olap && type.primitive.isFloatingPoint) .floatKey
      refuseIf (definition.key && definition.aggregation.isSome) (.keyWithAggregate name)
      refuseIf (definition.key && olap && type.primitive.isSketch) (.sketchKey name)) := by
  rw [checkKey]
  cases definition.key <;> cases olap <;> cases definition.aggregation <;>
    cases type.primitive.isFloatingPoint <;> cases type.primitive.isSketch <;> rfl

theorem floatKey_eq_error (typed : definition.HasType type) :
    refuseIf (definition.key && settings.olap && type.primitive.isFloatingPoint) .floatKey =
        .error rejection ↔
      definition.Breaks settings .floatKey rejection := by
  rw [refuseIf_eq_error, Bool.and_eq_true, Bool.and_eq_true,
    ScalarType.isFloatingPoint_primitive]
  constructor
  · rintro ⟨⟨⟨key, olap⟩, floating⟩, rfl⟩
    exact .floatKey typed key olap floating
  · intro broken
    cases broken with
    | floatKey typed' key olap floating =>
        cases typed.unique typed'
        exact ⟨⟨⟨key, olap⟩, floating⟩, rfl⟩

theorem aggregatedKey_eq_error (named : definition.name = some name) :
    refuseIf (definition.key && definition.aggregation.isSome) (.keyWithAggregate name) =
        .error rejection ↔
      definition.Breaks settings .aggregatedKey rejection := by
  rw [refuseIf_eq_error, Bool.and_eq_true, Option.isSome_iff_ne_none, ← shownName_eq named]
  constructor
  · rintro ⟨⟨key, aggregated⟩, rfl⟩
    exact .aggregatedKey key aggregated
  · intro broken
    cases broken with
    | aggregatedKey key aggregated => exact ⟨⟨key, aggregated⟩, rfl⟩

theorem sketchKey_eq_error (named : definition.name = some name)
    (typed : definition.HasType type) :
    refuseIf (definition.key && settings.olap && type.primitive.isSketch) (.sketchKey name) =
        .error rejection ↔
      definition.Breaks settings .sketchKey rejection := by
  rw [refuseIf_eq_error, Bool.and_eq_true, Bool.and_eq_true, ScalarType.isSketch_primitive,
    ← shownName_eq named]
  constructor
  · rintro ⟨⟨⟨key, olap⟩, sketch⟩, rfl⟩
    exact .sketchKey typed key olap sketch
  · intro broken
    cases broken with
    | sketchKey typed' key olap sketch =>
        cases typed.unique typed'
        exact ⟨⟨⟨key, olap⟩, sketch⟩, rfl⟩

theorem settledDefault_eq_error (typed : definition.HasType type) :
    definition.settledDefault type = .error rejection ↔
      definition.Breaks settings .sketchDefault rejection := by
  simp only [settledDefault, ScalarType.primitive_eq_hll]
  constructor
  · intro refused
    split at refused
    next hll =>
      split at refused
      next text declared =>
        cases refused
        exact .sketchDefault (hll ▸ typed) (by simp [declared])
      next => cases refused
    next => cases refused
  · intro broken
    cases broken with
    | sketchDefault typed' declared =>
        obtain ⟨text, textEq⟩ := Option.ne_none_iff_exists'.mp declared
        rw [if_pos (typed.unique typed'), textEq]

/-- The default that an HLL column gets is never refused. -/
theorem checkDefault_emptySketch : ScalarType.hll.checkDefault emptySketch = .ok () := rfl

theorem checkOptionalDefault_eq_error (typed : definition.HasType type)
    {settled : Option String} (settles : definition.settledDefault type = .ok settled) :
    type.checkOptionalDefault settled = .error rejection ↔
      definition.Breaks settings .defaultText rejection := by
  obtain ⟨sketch, plain⟩ := settledDefault_eq_ok.mp settles
  by_cases hll : type = .hll
  · constructor
    · intro refused
      rw [(sketch hll).2, hll, ScalarType.checkOptionalDefault, checkDefault_emptySketch]
        at refused
      cases refused
    · intro broken
      cases broken with
      | defaultText typed' notHll => exact absurd (typed'.unique typed ▸ hll) notHll
  · rw [plain hll]
    constructor
    · intro refused
      cases declared : definition.defaultText with
      | none =>
          rw [declared] at refused
          cases refused
      | some text =>
          rw [declared] at refused
          exact .defaultText typed hll declared refused
    · intro broken
      cases broken with
      | defaultText typed' _ declared refused =>
          cases typed.unique typed'
          rw [declared]
          exact refused

/-! ## The first broken rule -/

/-- Among the rules from this rank on, the definition breaks one in this way and keeps
those before it. -/
def FirstFault (definition : Definition) (settings : TableSettings) (rank : Nat)
    (rejection : Rejection) : Prop :=
  ∃ rule : Rule, rank ≤ rule.rank ∧ definition.Breaks settings rule rejection ∧
    ∀ earlier : Rule, rank ≤ earlier.rank → earlier.rank < rule.rank →
      definition.Keeps settings earlier

/-- If a rule is broken, no later one is the first. -/
theorem firstFault_iff_of_breaks {rule : Rule} {fault : Rejection}
    (broken : definition.Breaks settings rule fault) :
    definition.FirstFault settings rule.rank rejection ↔
      definition.Breaks settings rule rejection := by
  constructor
  · rintro ⟨first, reached, brokenFirst, kept⟩
    cases reached.lt_or_eq with
    | inl later => exact absurd broken (kept rule le_rfl later fault)
    | inr same =>
        cases Rule.rank_injective same
        exact brokenFirst
  · intro brokenSo
    exact ⟨rule, le_rfl, brokenSo, fun _ reached before => absurd before (by omega)⟩

/-- If a rule is kept, the first broken one is later. -/
theorem firstFault_iff_of_keeps {rule : Rule} (keeps : definition.Keeps settings rule) :
    definition.FirstFault settings rule.rank rejection ↔
      definition.FirstFault settings (rule.rank + 1) rejection := by
  constructor
  · rintro ⟨first, reached, broken, kept⟩
    cases reached.lt_or_eq with
    | inl later =>
        exact ⟨first, later, broken, fun earlier reachedEarlier before =>
          kept earlier (by omega) before⟩
    | inr same =>
        cases Rule.rank_injective same
        exact absurd broken (keeps rejection)
  · rintro ⟨first, reached, broken, kept⟩
    refine ⟨first, by omega, broken, fun earlier reachedEarlier before => ?_⟩
    cases reachedEarlier.lt_or_eq with
    | inl later => exact kept earlier later before
    | inr same =>
        cases Rule.rank_injective same
        exact keeps

/-- Some checks enforce the rules from this rank on, one after the other. -/
def Enforced (definition : Definition) (settings : TableSettings) (rank : Nat) {α : Type}
    (outcome : Except Rejection α) : Prop :=
  ∀ rejection, outcome = .error rejection ↔ definition.FirstFault settings rank rejection

/-- There is no rule left. -/
theorem Enforced.ok {α : Type} (value : α) : definition.Enforced settings 10 (.ok value) := by
  intro rejection
  constructor
  · intro refused
    cases refused
  · rintro ⟨rule, reached, -⟩
    have last := rule.rank_le
    omega

/-- A check of one rule comes before checks of the later ones. -/
theorem Enforced.bind {α β : Type} {first : Except Rejection α}
    {next : α → Except Rejection β} (rule : Rule)
    (judges : ∀ rejection, first = .error rejection ↔
      definition.Breaks settings rule rejection)
    (others : ∀ value, first = .ok value →
      definition.Enforced settings (rule.rank + 1) (next value)) :
    definition.Enforced settings rule.rank (first >>= next) := by
  intro rejection
  cases first with
  | error fault =>
      rw [Outcome.error_bind, firstFault_iff_of_breaks ((judges fault).mp rfl), ← judges,
        Except.error.injEq, Except.error.injEq]
  | ok value =>
      have keeps : definition.Keeps settings rule := by
        intro fault broken
        cases (judges fault).mpr broken
      rw [Outcome.ok_bind, firstFault_iff_of_keeps keeps]
      exact others value rfl rejection

/-- Analysis enforces all the rules. -/
theorem enforced_analyze : definition.Enforced settings 1 (definition.analyze settings) := by
  rw [analyze]
  apply Enforced.bind .presence fun _ => nameAndType_eq_error
  rintro ⟨name, decl⟩ accepted
  obtain ⟨named, -, declared⟩ := nameAndType_eq_ok.mp accepted
  apply Enforced.bind .name fun _ => check_eq_error named
  intro _ _
  apply Enforced.bind .type fun _ => resolve_eq_error declared
  intro type resolved
  have typed : definition.HasType type := ⟨decl, declared, resolved⟩
  apply Enforced.bind .aggregation fun _ => checkAggregation_eq_error typed
  intro _ _
  -- The key is under three rules, which are judged apart.
  rw [checkKey_eq, bind_assoc, bind_assoc]
  apply Enforced.bind .floatKey fun _ => floatKey_eq_error typed
  intro _ _
  apply Enforced.bind .aggregatedKey fun _ => aggregatedKey_eq_error named
  intro _ _
  apply Enforced.bind .sketchKey fun _ => sketchKey_eq_error named typed
  intro _ _
  apply Enforced.bind .sketchDefault fun _ => settledDefault_eq_error typed
  intro settled settles
  apply Enforced.bind .defaultText fun _ => checkOptionalDefault_eq_error typed settles
  intro _ _
  exact Enforced.ok _

/-- A definition that breaks some rule breaks a first one. -/
theorem exists_firstFault {rule : Rule} (broken : ¬ definition.Keeps settings rule) :
    ∃ rejection, definition.FirstFault settings 1 rejection := by
  obtain ⟨first, brokenFirst, least⟩ :=
    (measure Rule.rank).wf.has_min {rule | ¬ definition.Keeps settings rule} ⟨rule, broken⟩
  simp only [Set.mem_ofPred_eq, Keeps, not_forall, not_not] at brokenFirst
  obtain ⟨rejection, brokenFirst⟩ := brokenFirst
  refine ⟨rejection, first, first.rank_pos, brokenFirst, fun earlier _ before => ?_⟩
  by_contra brokenEarlier
  exact least earlier brokenEarlier before

/-- The column has what the definition declares, and as an HLL column the empty sketch
as its default. -/
structure Carries (definition : Definition) (column : Column) : Prop where
  name : definition.name = some column.name
  type : definition.HasType column.type
  key : column.key = definition.key
  aggregation : column.aggregation = definition.aggregation
  nullable : column.nullable = definition.nullable
  comment : column.comment = definition.comment
  sketch : column.type = .hll → column.defaultText = some emptySketch
  plain : column.type ≠ .hll → column.defaultText = definition.defaultText

theorem carries_of_analyze {column : Column}
    (accepted : definition.analyze settings = .ok column) : definition.Carries column := by
  have declares := declares_of_analyze accepted
  obtain ⟨decl, declared, denotes⟩ := declares.type
  exact {
    name := declares.name
    type := ⟨decl, declared, TypeDecl.resolve_of_denotes denotes⟩
    key := declares.key
    aggregation := declares.aggregation
    nullable := declares.nullable
    comment := declares.comment
    sketch := fun hll => (declares.sketch hll).2
    plain := declares.plain }

/-- A definition is accepted exactly if it keeps every rule, and it is refused for a
rule in a given way exactly if it breaks the rule so and keeps all that come before it.
The column of an accepted definition has what the definition declares. -/
theorem analyze_by_rules (definition : Definition) (settings : TableSettings) :
    ((∃ column, definition.analyze settings = .ok column) ↔
        ∀ rule, definition.Keeps settings rule) ∧
      (∀ rule rejection,
        (definition.analyze settings = .error rejection ∧ rejection.rule = rule) ↔
          definition.Breaks settings rule rejection ∧
            ∀ earlier : Rule, earlier.rank < rule.rank →
              definition.Keeps settings earlier) ∧
      ∀ column, definition.analyze settings = .ok column → definition.Carries column := by
  have enforced : definition.Enforced settings 1 (definition.analyze settings) :=
    enforced_analyze
  refine ⟨⟨?_, ?_⟩, fun rule rejection => ⟨?_, ?_⟩, fun _ => carries_of_analyze⟩
  · rintro ⟨column, accepted⟩ rule
    by_contra broken
    obtain ⟨rejection, fault⟩ := exists_firstFault broken
    cases accepted.symm.trans ((enforced rejection).mpr fault)
  · intro kept
    cases outcome : definition.analyze settings with
    | ok column => exact ⟨column, rfl⟩
    | error rejection =>
        obtain ⟨rule, -, broken, -⟩ := (enforced rejection).mp outcome
        exact absurd broken (kept rule rejection)
  · rintro ⟨refused, about⟩
    obtain ⟨first, -, broken, kept⟩ := (enforced rejection).mp refused
    cases broken.rule_eq.symm.trans about
    exact ⟨broken, fun earlier before => kept earlier earlier.rank_pos before⟩
  · rintro ⟨broken, kept⟩
    refine ⟨(enforced rejection).mpr ?_, broken.rule_eq⟩
    exact ⟨rule, rule.rank_pos, broken, fun earlier _ before => kept earlier before⟩

/-- The summed key with a default that is no number. -/
def wordyTotalKey : Definition :=
  { totalKey with defaultText := some "many" }

/-- The same key with its numbers merged as sketches. -/
def sketchedTotalKey : Definition :=
  { wordyTotalKey with aggregation := some .hllUnion }

/-- Three rules are broken at once, and the key is refused for the first of them. If its
aggregation is not defined for numbers, it is refused for that before anything else. -/
theorem analyze_by_rules_wordyTotalKey :
    wordyTotalKey.analyze olapTable = .error .floatKey ∧
      wordyTotalKey.Keeps olapTable .aggregation ∧
      wordyTotalKey.Breaks olapTable .floatKey .floatKey ∧
      wordyTotalKey.Breaks olapTable .aggregatedKey (.keyWithAggregate "total") ∧
      wordyTotalKey.Breaks olapTable .defaultText (.invalidFloat "many") ∧
      sketchedTotalKey.analyze olapTable =
        .error (.incompatibleAggregate .hllUnion .double) ∧
      sketchedTotalKey.Keeps olapTable .type ∧
      sketchedTotalKey.Breaks olapTable .aggregation
        (.incompatibleAggregate .hllUnion .double) ∧
      sketchedTotalKey.Breaks olapTable .floatKey .floatKey := by
  have refused : wordyTotalKey.analyze olapTable = .error .floatKey := rfl
  have typed : wordyTotalKey.HasType .double := ⟨_, rfl, rfl⟩
  obtain ⟨broken, kept⟩ :=
    ((analyze_by_rules wordyTotalKey olapTable).2.1 .floatKey .floatKey).mp ⟨refused, rfl⟩
  have sketchRefused : sketchedTotalKey.analyze olapTable =
      .error (.incompatibleAggregate .hllUnion .double) := rfl
  have sketchTyped : sketchedTotalKey.HasType .double := ⟨_, rfl, rfl⟩
  obtain ⟨sketchBroken, sketchKept⟩ :=
    ((analyze_by_rules sketchedTotalKey olapTable).2.1 .aggregation _).mp ⟨sketchRefused, rfl⟩
  exact ⟨refused, kept .aggregation (by decide), broken, .aggregatedKey rfl (by decide),
    .defaultText typed (by decide) rfl rfl, sketchRefused, sketchKept .type (by decide),
    sketchBroken, .floatKey sketchTyped rfl rfl (.inr rfl)⟩

end Definition

end ColumnSchema
