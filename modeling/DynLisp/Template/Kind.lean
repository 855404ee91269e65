/-!
# Kinds of subjects

Everything that the field of a template can speak of is of a kind.  Kinds have names, belong to
other kinds and take up room.
-/

namespace DynLisp
namespace Template

/-- The kinds of subjects. -/
inductive Kind where
  /-- Texts. -/
  | texts
  /-- Numbers. -/
  | numbers
  /-- Truth values. -/
  | truths
  /-- Rows of subjects. -/
  | rows
  /-- Tables from names to subjects. -/
  | tables
  /-- The absence of a subject. -/
  | nothing
  /-- Everything. -/
  | things
  /-- Kinds. -/
  | kinds
  /-- Kinds with a key. -/
  | keyedKinds
  /-- Catalogues of what a kind has. -/
  | catalogues
  /-- Operations with names of their own. -/
  | methods
  /-- Operations that stand for a sign or a built-in form. -/
  | slots
  /-- Operations on kinds. -/
  | kindMethods
  /-- Operations with names of their own on one subject. -/
  | boundMethods
  /-- Operations that stand for a sign or a built-in form, on one subject. -/
  | boundSlots
  /-- Operations without a receiver. -/
  | statics
  /-- Parts that are computed. -/
  | computedParts
  /-- Parts that are stored. -/
  | storedParts
deriving DecidableEq, Repr

namespace Kind

/-- The name of a kind. -/
def name : Kind → String
  | texts => "str"
  | numbers => "int"
  | truths => "bool"
  | rows => "tuple"
  | tables => "dict"
  | nothing => "NoneType"
  | things => "object"
  | kinds => "type"
  | keyedKinds => "GenericAlias"
  | catalogues => "mappingproxy"
  | methods => "method_descriptor"
  | slots => "wrapper_descriptor"
  | kindMethods => "classmethod_descriptor"
  | boundMethods => "builtin_function_or_method"
  | boundSlots => "method-wrapper"
  | statics => "staticmethod"
  | computedParts => "getset_descriptor"
  | storedParts => "member_descriptor"

/-- Where a kind is at home. -/
def home : Kind → String
  | keyedKinds => "types"
  | _ => "builtins"

/-- The name of a kind, behind its home if that is not the usual one. -/
def fullName (kind : Kind) : String :=
  match kind with
  | keyedKinds => kind.home ++ "." ++ kind.name
  | kind => kind.name

/-- A kind as it is written down. -/
def shown (kind : Kind) : String := "<class '" ++ kind.fullName ++ "'>"

/-- The kinds that a kind belongs to directly. -/
def bases : Kind → List Kind
  | things => []
  | truths => [numbers]
  | _ => [things]

/-- A kind and all kinds that it belongs to, nearest first. -/
def lineage : Kind → List Kind
  | things => [things]
  | truths => [truths, numbers, things]
  | kind => [kind, things]

/-- Whether a kind takes a key. -/
def takesKey : Kind → Bool
  | kinds => true
  | rows => true
  | tables => true
  | catalogues => true
  | _ => false

/-- How the subjects of a kind are made from others, if that is said. -/
def usage? : Kind → Option String
  | things => some "()"
  | rows => some "(iterable=(), /)"
  | _ => none

/-- The room that a subject of a kind takes up, without its items. -/
def size : Kind → Nat
  | texts => 80
  | numbers => 24
  | truths => 32
  | rows => 24
  | tables => 48
  | nothing => 16
  | things => 16
  | kinds => 904
  | keyedKinds => 64
  | catalogues => 24
  | methods => 56
  | slots => 56
  | kindMethods => 56
  | boundMethods => 56
  | boundSlots => 32
  | statics => 32
  | computedParts => 48
  | storedParts => 48

/-- The room that an item of a subject takes up, if items are kept with their subject. -/
def itemSize : Kind → Nat
  | numbers => 4
  | truths => 4
  | rows => 8
  | kinds => 40
  | _ => 0

/-- The marks of a kind, as one number. -/
def marks : Kind → Nat
  | texts => 273159424
  | numbers => 21501184
  | truths => 21500160
  | rows => 71849248
  | tables => 541611328
  | nothing => 528640
  | things => 529664
  | kinds => 2148031744
  | keyedKinds => 548096
  | catalogues => 545088
  | methods => 678272
  | slots => 676224
  | kindMethods => 545152
  | boundMethods => 547200
  | boundSlots => 545152
  | statics => 546048
  | computedParts => 545152
  | storedParts => 545152

/-- Where a subject of a kind keeps its own table, if it has one. -/
def tableOffset : Kind → Nat
  | kinds => 264
  | statics => 24
  | _ => 0

/-- Where a subject of a kind keeps track of what refers to it, if it does. -/
def referenceOffset : Kind → Nat
  | kinds => 368
  | keyedKinds => 40
  | boundMethods => 40
  | _ => 0

end Kind
end Template
end DynLisp
