import ColumnSchema.Column
import ColumnSchema.Literal

/-!
# Analysis of column definitions

Analysis turns a definition into a column or rejects it. Its checks run in a fixed
order and the first one that fails gives the rejection: presence of name and type,
the name policy, resolution of the type, the aggregation, the key, the default.

A column name is an identifier over ASCII letters, digits and underscores that
does not start with a digit. A name policy adds the longest length it allows and a
stem with which no name may start.
-/

namespace ColumnSchema

/-! ## Name policies -/

/-- The characters that can stand anywhere in an identifier. -/
def isNameCharacter (c : Char) : Bool :=
  c == '_' || c.isAlphanum

/-- The characters that can open an identifier. -/
def isNameStart (c : Char) : Bool :=
  c == '_' || c.isAlpha

/-- Whether a text is an identifier. Only ASCII letters and digits count, and the
whole text is judged, a final line break included. -/
def isIdentifier : List Char → Bool
  | [] => false
  | c :: rest => isNameStart c && rest.all isNameCharacter

/-- What a table demands of the names of its columns. -/
structure NamePolicy where
  /-- The most characters a name may have. -/
  maxLength : Nat := 64
  /-- No name may start with this stem; an empty stem forbids nothing. The default
  marks the shadow columns that schema changes create. -/
  reservedStem : String := "__doris_shadow_"
  deriving DecidableEq, Repr

namespace NamePolicy

/-- Whether the policy keeps the name's first characters for itself. -/
def reserves (policy : NamePolicy) (name : String) : Bool :=
  !policy.reservedStem.isEmpty &&
    policy.reservedStem.toList.isPrefixOf name.toList

/-- The first thing the policy holds against a name: its characters, then its
length, then its stem. The length is taken in bytes, of which an identifier has one
for each character. -/
def fault? (policy : NamePolicy) (name : String) : Option NameFault :=
  if !isIdentifier name.toList then some .illegalCharacters
  else if policy.maxLength < name.utf8ByteSize then some (.tooLong policy.maxLength)
  else if policy.reserves name then some (.reserved policy.reservedStem)
  else none

/-- Accepts a name that the policy has nothing against. -/
def check (policy : NamePolicy) (name : String) : Except Rejection Unit :=
  match policy.fault? name with
  | some fault => .error (.invalidName name fault)
  | none => .ok ()

end NamePolicy

/-! ## Checks of a definition -/

/-- What the table of a column decides about it. -/
structure TableSettings where
  /-- Tables for analytical processing restrict the types of their keys. -/
  olap : Bool
  names : NamePolicy := {}
  deriving DecidableEq, Repr

/-- The default of every HLL column: the empty sketch. -/
def emptySketch : String := "0"

namespace Definition

/-- The name and the type of a definition that has both. An empty name is none. -/
def nameAndType (definition : Definition) : Except Rejection (String × TypeDecl) :=
  match definition.name, definition.type with
  | some name, some type => if name.isEmpty then .error .missingField else .ok (name, type)
  | _, _ => .error .missingField

/-- Accepts an aggregation that is defined for the type, and the lack of one. -/
def checkAggregation (definition : Definition) (type : ScalarType) :
    Except Rejection Unit :=
  match definition.aggregation with
  | none => .ok ()
  | some aggregation =>
    if aggregation.isCompatible type.primitive then
      .ok ()
    else
      .error (.incompatibleAggregate aggregation type)

/-- Accepts what is no key, and a key without aggregation whose values can be
compared exactly where the table asks for that. -/
def checkKey (definition : Definition) (name : String) (type : ScalarType)
    (olap : Bool) : Except Rejection Unit :=
  if definition.key then
    if type.primitive.isFloatingPoint && olap then
      .error .floatKey
    else if definition.aggregation.isSome then
      .error (.keyWithAggregate name)
    else if type.primitive.isSketch && olap then
      .error (.sketchKey name)
    else
      .ok ()
  else
    .ok ()

/-- The default that the column gets. An HLL column declares none and gets the
empty sketch. -/
def settledDefault (definition : Definition) (type : ScalarType) :
    Except Rejection (Option String) :=
  if type.primitive = .hll then
    match definition.defaultText with
    | some _ => .error .hllDefault
    | none => .ok (some emptySketch)
  else
    .ok definition.defaultText

/-- The column that a definition declares in a table with the given settings. -/
def analyze (definition : Definition) (settings : TableSettings) :
    Except Rejection Column := do
  let (name, decl) ← definition.nameAndType
  settings.names.check name
  let type ← decl.resolve
  definition.checkAggregation type
  definition.checkKey name type settings.olap
  let defaultText ← definition.settledDefault type
  type.checkOptionalDefault defaultText
  return {
    name
    type
    key := definition.key
    aggregation := definition.aggregation
    nullable := definition.nullable
    defaultText
    comment := definition.comment }

end Definition

end ColumnSchema
