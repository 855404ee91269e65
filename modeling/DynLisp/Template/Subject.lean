import DynLisp.Cause
import DynLisp.Template.Catalogue
import DynLisp.Text.Quoted

/-!
# What a field speaks of

The argument of a field is a text.  Behind its number a field may ask for items and for named parts
of it, and for items and parts of these in turn: a character, the kind of the text, the name of the
kind, a feature that the kind has.  What is reached in this way is the subject of the field.

`Subject.item` and `Subject.part` answer such a request; `Subject.shown` and `Subject.quoted` write
a subject down.
-/

namespace DynLisp
namespace Template

/-- What stands between brackets. -/
inductive Key where
  /-- A number. -/
  | index (number : Nat)
  /-- Anything else. -/
  | word (text : String)
deriving DecidableEq, Repr

/-- A key as it is written down. -/
def Key.shown : Key → String
  | index number => number.repr
  | word text => Text.quoted text

/-- What a field speaks of. -/
inductive Subject where
  /-- A text. -/
  | text (characters : List Char)
  /-- A number. -/
  | number (value : Nat)
  /-- A truth value. -/
  | truth (value : Bool)
  /-- A row of subjects. -/
  | row (items : List Subject)
  /-- A table without entries. -/
  | emptyTable
  /-- No subject. -/
  | nothing
  /-- A kind. -/
  | ofKind (kind : Kind)
  /-- A kind with a key. -/
  | keyed (kind : Kind) (key : Key)
  /-- The catalogue of what a kind has itself. -/
  | catalogue (kind : Kind)
  /-- A feature of a kind. -/
  | ofFeature (owner : Kind) (feature : Feature)
  /-- An operation of a kind on one subject. -/
  | bound (owner : Kind) (feature : Feature) (receiver : Subject)

/-- What can be wrong with a request to a subject. -/
inductive SubjectError where
  /-- A subject of the given kind has no such part. -/
  | missingPart (kind : Kind) (part : String)
  /-- A kind has no such part. -/
  | missingKindPart (kind : Kind) (part : String)
  /-- A part has not been set. -/
  | unsetPart (part : String)
  /-- A text has no such character. -/
  | missingCharacter
  /-- A row has no such item. -/
  | missingItem
  /-- A table has no such key. -/
  | missingKey (key : Key)
  /-- A character is asked for by something other than its number. -/
  | unnumberedCharacter
  /-- An item of a row is asked for by something other than its number. -/
  | unnumberedItem
  /-- A subject of the given kind has no items. -/
  | withoutItems (kind : Kind)
  /-- A kind takes no key. -/
  | withoutKey (kind : Kind)
  /-- A kind has a key already. -/
  | keyedTwice (kind : Kind) (key : Key)
  /-- A subject of the given kind cannot be set in a column. -/
  | withoutLayout (kind : Kind)
deriving DecidableEq, Repr

/-- How a faulty request is named and worded. -/
def SubjectError.cause : SubjectError → Cause
  | missingPart kind part => .missingPart kind.fullName part
  | missingKindPart kind part => .missingKindPart kind.fullName part
  | unsetPart part => .unsetPart part
  | missingCharacter => .badIndex "string index out of range"
  | missingItem => .badIndex "tuple index out of range"
  | missingKey key => .badKey key.shown
  | unnumberedCharacter => .badType "string indices must be integers, not 'str'"
  | unnumberedItem => .badType "tuple indices must be integers or slices, not str"
  | withoutItems kind => .badType ("'" ++ kind.fullName ++ "' object is not subscriptable")
  | withoutKey kind => .badType ("type '" ++ kind.fullName ++ "' is not subscriptable")
  | keyedTwice kind key =>
      .badType (kind.fullName ++ "[" ++ key.shown ++ "] is not a generic class")
  | withoutLayout kind =>
      .badType ("unsupported format string passed to " ++ kind.fullName ++ ".__format__")

namespace Subject

/-- A subject that is the given text. -/
def ofString (text : String) : Subject := .text text.toList

/-- A subject that is the given text, or nothing. -/
def ofString? (text : Option String) : Subject := text.elim .nothing ofString

/-- A subject that is a key. -/
def ofKey : Key → Subject
  | .index value => .number value
  | .word name => ofString name

/-- The kind of a subject. -/
def kindOf : Subject → Kind
  | text _ => .texts
  | number _ => .numbers
  | truth _ => .truths
  | row _ => .rows
  | emptyTable => .tables
  | nothing => .nothing
  | ofKind _ => .kinds
  | keyed _ _ => .keyedKinds
  | catalogue _ => .catalogues
  | ofFeature _ feature =>
      match feature.sort with
      | .slot => .slots
      | .kindMethod => .kindMethods
      | .static => .statics
      | .computed => .computedParts
      | .stored => .storedParts
      | _ => .methods
  | bound _ feature _ => if feature.sort = .slot then .boundSlots else .boundMethods

/-- An operation on a subject of the given kind as it is written down.  It shows where that subject
is kept, which no one can rely on. -/
def boundShown (feature : Feature) (kind : Kind) : String :=
  "<" ++ (if feature.sort = .slot then "method-wrapper '" ++ feature.name ++ "'"
    else "built-in method " ++ feature.name) ++ " of " ++ kind.fullName ++
    " object at 0x7f0000000000>"

/-- A feature as it is written down. -/
def featureShown (owner : Kind) (feature : Feature) : String :=
  let named (sort : String) :=
    "<" ++ sort ++ " '" ++ feature.name ++ "' of '" ++ owner.fullName ++ "' objects>"
  match feature.sort with
  | .slot => named "slot wrapper"
  | .computed => named "attribute"
  | .stored => named "member"
  | .static => "<staticmethod(" ++ boundShown feature .kinds ++ ")>"
  | .maker => boundShown feature .kinds
  | .note => Text.quoted (feature.description?.getD "")
  | .lack => "None"
  | _ => named "method"

/-- The catalogue of a kind as it is written down. -/
def catalogueShown (kind : Kind) : String :=
  "\x7b" ++ String.intercalate ", " (kind.features.map fun feature =>
    Text.quoted feature.name ++ ": " ++ featureShown kind feature) ++ "\x7d"

/-- Texts one behind the other between brackets; a single one is followed by a comma. -/
def rowShown : List String → String
  | [single] => "(" ++ single ++ ",)"
  | texts => "(" ++ String.intercalate ", " texts ++ ")"

mutual

/-- A subject as it is written down, with texts between quotes. -/
def quoted : Subject → String
  | text characters => Text.quoted (String.ofList characters)
  | number value => value.repr
  | truth value => if value then "True" else "False"
  | row items => rowShown (allQuoted items)
  | emptyTable => "\x7b\x7d"
  | nothing => "None"
  | ofKind kind => kind.shown
  | keyed kind key => kind.fullName ++ "[" ++ key.shown ++ "]"
  | catalogue kind => "mappingproxy(" ++ catalogueShown kind ++ ")"
  | ofFeature owner feature => featureShown owner feature
  | bound _ feature receiver => boundShown feature receiver.kindOf

/-- Subjects as they are written down, with texts between quotes. -/
def allQuoted : List Subject → List String
  | [] => []
  | subject :: rest => subject.quoted :: allQuoted rest

end

/-- A subject as it is written down. -/
def shown : Subject → String
  | text characters => String.ofList characters
  | catalogue kind => catalogueShown kind
  | subject => subject.quoted

/-- What a catalogue lists under the name of a feature. -/
def listed (owner : Kind) (feature : Feature) : Subject :=
  match feature.sort with
  | .note => ofString? feature.description?
  | .lack => .nothing
  | .maker => .bound owner feature (.ofKind owner)
  | _ => .ofFeature owner feature

/-- What a feature is on a kind itself. -/
def onKind (owner : Kind) (feature : Feature) (kind : Kind) : Subject :=
  match feature.sort with
  | .kindMethod => .bound owner feature (.ofKind kind)
  | .static => .bound owner feature (.ofKind owner)
  | _ => listed owner feature

/-- What is said about a kind. -/
def kindDescription (kind : Kind) : Subject :=
  if kind = .kinds then
    ofString "type(object) -> the object's type\ntype(name, bases, dict, **kwds) -> a new type"
  else
    (kind.own? "__doc__").elim .nothing (listed kind)

/-- A part of a kind. -/
def kindPart (kind : Kind) (part : String) : Except SubjectError Subject :=
  match part with
  | "__name__" => .ok (ofString kind.name)
  | "__qualname__" => .ok (ofString kind.name)
  | "__module__" => .ok (ofString kind.home)
  | "__doc__" => .ok (kindDescription kind)
  | "__text_signature__" => .ok (ofString? kind.usage?)
  | "__base__" => .ok (kind.bases.head?.elim .nothing .ofKind)
  | "__bases__" => .ok (.row (kind.bases.map .ofKind))
  | "__mro__" => .ok (.row (kind.lineage.map .ofKind))
  | "__dict__" => .ok (.catalogue kind)
  | "__basicsize__" => .ok (.number kind.size)
  | "__itemsize__" => .ok (.number kind.itemSize)
  | "__flags__" => .ok (.number kind.marks)
  | "__dictoffset__" => .ok (.number kind.tableOffset)
  | "__weakrefoffset__" => .ok (.number kind.referenceOffset)
  | "__abstractmethods__" => .error (.unsetPart part)
  | part => .error (.missingKindPart kind part)

/-- The name of a feature behind the name of a kind. -/
def nameUnder (kind : Kind) (feature : Feature) : Subject :=
  ofString (kind.name ++ "." ++ feature.name)

/-- The kind under which an operation on one subject goes: the subject, or else its kind. -/
def family : Subject → Kind
  | ofKind kind => kind
  | subject => subject.kindOf

/-- A part of a feature. -/
def featurePart? (owner : Kind) (feature : Feature) (part : String) : Option Subject :=
  match part with
  | "__name__" => some (ofString feature.name)
  | "__qualname__" => some (nameUnder owner feature)
  | "__objclass__" => some (.ofKind owner)
  | "__doc__" => some (ofString? feature.description?)
  | "__text_signature__" => some (ofString? feature.usage?)
  | _ => none

/-- A part of an operation without a receiver. -/
def staticPart? (owner : Kind) (feature : Feature) (part : String) : Option Subject :=
  match part with
  | "__func__" => some (.bound owner feature (.ofKind owner))
  | "__wrapped__" => some (.bound owner feature (.ofKind owner))
  | "__isabstractmethod__" => some (.truth false)
  | "__dict__" => some .emptyTable
  | _ => none

/-- A part of an operation on one subject.  If it has a name of its own, it goes under the kind of
that subject, whichever kind has the operation. -/
def boundPart? (owner : Kind) (feature : Feature) (receiver : Subject) (part : String) :
    Option Subject :=
  match part with
  | "__self__" => some (if feature.sort = .static then .nothing else receiver)
  | "__module__" => some .nothing
  | "__qualname__" =>
      some (nameUnder (if feature.sort = .slot then owner else receiver.family) feature)
  | part => featurePart? owner feature part

/-- A part of a number. -/
def numberPart? (value : Nat) (part : String) : Option Subject :=
  match part with
  | "real" => some (.number value)
  | "numerator" => some (.number value)
  | "imag" => some (.number 0)
  | "denominator" => some (.number 1)
  | _ => none

/-- A part of a kind with a key. -/
def keyedPart? (kind : Kind) (key : Key) (part : String) : Option Subject :=
  match part with
  | "__origin__" => some (.ofKind kind)
  | "__args__" => some (.row [ofKey key])
  | "__parameters__" => some (.row [])
  | "__unpacked__" => some (.truth false)
  | "__typing_unpacked_tuple_args__" => some .nothing
  | _ => none

/-- The computed or stored part of a subject. -/
def ownPart (subject : Subject) (part : String) : Except SubjectError Subject :=
  if part = "__class__" then
    .ok (.ofKind subject.kindOf)
  else
    let found (answer : Option Subject) : Except SubjectError Subject :=
      match answer with
      | some found => .ok found
      | none => .error (.missingPart subject.kindOf part)
    match subject with
    | number value => found (numberPart? value part)
    | truth value => found (numberPart? value.toNat part)
    | ofKind kind => kindPart kind part
    | keyed kind key => found (keyedPart? kind key part)
    | ofFeature owner feature =>
        found (if feature.sort = .static then staticPart? owner feature part
          else featurePart? owner feature part)
    | bound owner feature receiver => found (boundPart? owner feature receiver part)
    | _ => found none

/-- What a feature is on a subject. -/
def onSubject (owner : Kind) (feature : Feature) (subject : Subject) :
    Except SubjectError Subject :=
  match feature.sort with
  | .computed => subject.ownPart feature.name
  | .stored => subject.ownPart feature.name
  | .method => .ok (.bound owner feature subject)
  | .slot => .ok (.bound owner feature subject)
  | _ => .ok (onKind owner feature subject.kindOf)

/-- What a subject that is no kind has under a name. -/
def memberPart (subject : Subject) (name : String) : Except SubjectError Subject :=
  match subject.kindOf.find? name with
  | some (owner, feature) => onSubject owner feature subject
  | none => .error (.missingPart subject.kindOf name)

/-- What a kind has under a name: a part of the kind, or else a feature of its subjects, or else an
operation on kinds. -/
def kindMemberPart (kind : Kind) (name : String) : Except SubjectError Subject :=
  match Kind.kinds.find? name, kind.find? name with
  | some (owner, feature), none => onSubject owner feature (.ofKind kind)
  | some (owner, feature), some (other, own) =>
      if feature.isPart then onSubject owner feature (.ofKind kind)
      else .ok (onKind other own kind)
  | none, some (other, own) => .ok (onKind other own kind)
  | none, none => .error (.missingKindPart kind name)

/-- The names under which a kind with a key answers for itself and not for the kind. -/
def keyedNames : List String :=
  ["__class__", "__origin__", "__args__", "__unpacked__", "__parameters__",
    "__typing_unpacked_tuple_args__", "__mro_entries__", "__reduce_ex__", "__reduce__",
    "__copy__", "__deepcopy__"]

/-- What a subject has under a name. -/
def part (subject : Subject) (name : String) : Except SubjectError Subject :=
  match subject with
  | ofKind kind => kindMemberPart kind name
  | keyed kind key =>
      if keyedNames.contains name then memberPart (.keyed kind key) name
      else kindMemberPart kind name
  | subject => memberPart subject name

/-- The item of a subject under a key. -/
def item (subject : Subject) (key : Key) : Except SubjectError Subject :=
  match subject, key with
  | text characters, .index place =>
      match characters[place]? with
      | some character => .ok (.text [character])
      | none => .error .missingCharacter
  | text _, .word _ => .error .unnumberedCharacter
  | row items, .index place =>
      match items[place]? with
      | some item => .ok item
      | none => .error .missingItem
  | row _, .word _ => .error .unnumberedItem
  | catalogue kind, .word name =>
      match kind.own? name with
      | some feature => .ok (listed kind feature)
      | none => .error (.missingKey key)
  | catalogue _, .index _ => .error (.missingKey key)
  | emptyTable, _ => .error (.missingKey key)
  | ofKind kind, key =>
      if kind.takesKey then .ok (.keyed kind key) else .error (.withoutKey kind)
  | keyed kind key, _ => .error (.keyedTwice kind key)
  | subject, _ => .error (.withoutItems subject.kindOf)

end Subject
end Template
end DynLisp
