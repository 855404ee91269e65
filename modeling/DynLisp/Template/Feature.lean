import DynLisp.Template.Kind

/-!
# Features

A feature is what a kind has under a name: an operation on its subjects, a part of them, or a note.
Operations come with their usage and all features may come with a description.
-/

namespace DynLisp
namespace Template

/-- The sorts of features. -/
inductive FeatureSort where
  /-- An operation with a name of its own. -/
  | method
  /-- An operation that stands for a sign or a built-in form. -/
  | slot
  /-- An operation on the kind itself. -/
  | kindMethod
  /-- An operation without a receiver. -/
  | static
  /-- The operation that makes subjects of the kind. -/
  | maker
  /-- A part that is computed. -/
  | computed
  /-- A part that is stored. -/
  | stored
  /-- A note about the kind. -/
  | note
  /-- The mark that something is missing. -/
  | lack
deriving DecidableEq, Repr

/-- What a kind has under a name. -/
structure Feature where
  /-- The name. -/
  name : String
  /-- The sort. -/
  sort : FeatureSort
  /-- How the feature is used; it is empty if nothing is said. -/
  usage : String
  /-- The lines of the description; there are none if nothing is said. -/
  description : List String
deriving DecidableEq, Repr

namespace Feature

/-- The operations that stand for a sign or a built-in form, with their usage and description. -/
def slotTexts : List (String × String × String) :=
  [("__abs__", "($self, /)", "abs(self)"),
    ("__add__", "($self, value, /)", "Return self+value."),
    ("__and__", "($self, value, /)", "Return self&value."),
    ("__bool__", "($self, /)", "True if self else False"),
    ("__call__", "($self, /, *args, **kwargs)", "Call self as a function."),
    ("__contains__", "($self, key, /)", "Return key in self."),
    ("__delattr__", "($self, name, /)", "Implement delattr(self, name)."),
    ("__delete__", "($self, instance, /)", "Delete an attribute of instance."),
    ("__delitem__", "($self, key, /)", "Delete self[key]."),
    ("__divmod__", "($self, value, /)", "Return divmod(self, value)."),
    ("__eq__", "($self, value, /)", "Return self==value."),
    ("__float__", "($self, /)", "float(self)"),
    ("__floordiv__", "($self, value, /)", "Return self//value."),
    ("__ge__", "($self, value, /)", "Return self>=value."),
    ("__get__", "($self, instance, owner=None, /)",
      "Return an attribute of instance, which is of type owner."),
    ("__getattribute__", "($self, name, /)", "Return getattr(self, name)."),
    ("__getitem__", "($self, key, /)", "Return self[key]."),
    ("__gt__", "($self, value, /)", "Return self>value."),
    ("__hash__", "($self, /)", "Return hash(self)."),
    ("__index__", "($self, /)",
      "Return self converted to an integer, if self is suitable for use as an index into a list."),
    ("__init__", "($self, /, *args, **kwargs)",
      "Initialize self.  See help(type(self)) for accurate signature."),
    ("__int__", "($self, /)", "int(self)"),
    ("__invert__", "($self, /)", "~self"),
    ("__ior__", "($self, value, /)", "Return self|=value."),
    ("__iter__", "($self, /)", "Implement iter(self)."),
    ("__le__", "($self, value, /)", "Return self<=value."),
    ("__len__", "($self, /)", "Return len(self)."),
    ("__lshift__", "($self, value, /)", "Return self<<value."),
    ("__lt__", "($self, value, /)", "Return self<value."),
    ("__mod__", "($self, value, /)", "Return self%value."),
    ("__mul__", "($self, value, /)", "Return self*value."),
    ("__ne__", "($self, value, /)", "Return self!=value."),
    ("__neg__", "($self, /)", "-self"),
    ("__or__", "($self, value, /)", "Return self|value."),
    ("__pos__", "($self, /)", "+self"),
    ("__pow__", "($self, value, mod=None, /)", "Return pow(self, value, mod)."),
    ("__radd__", "($self, value, /)", "Return value+self."),
    ("__rand__", "($self, value, /)", "Return value&self."),
    ("__rdivmod__", "($self, value, /)", "Return divmod(value, self)."),
    ("__repr__", "($self, /)", "Return repr(self)."),
    ("__rfloordiv__", "($self, value, /)", "Return value//self."),
    ("__rlshift__", "($self, value, /)", "Return value<<self."),
    ("__rmod__", "($self, value, /)", "Return value%self."),
    ("__rmul__", "($self, value, /)", "Return value*self."),
    ("__ror__", "($self, value, /)", "Return value|self."),
    ("__rpow__", "($self, value, mod=None, /)", "Return pow(value, self, mod)."),
    ("__rrshift__", "($self, value, /)", "Return value>>self."),
    ("__rshift__", "($self, value, /)", "Return self>>value."),
    ("__rsub__", "($self, value, /)", "Return value-self."),
    ("__rtruediv__", "($self, value, /)", "Return value/self."),
    ("__rxor__", "($self, value, /)", "Return value^self."),
    ("__set__", "($self, instance, value, /)", "Set an attribute of instance to value."),
    ("__setattr__", "($self, name, value, /)", "Implement setattr(self, name, value)."),
    ("__setitem__", "($self, key, value, /)", "Set self[key] to value."),
    ("__str__", "($self, /)", "Return str(self)."),
    ("__sub__", "($self, value, /)", "Return self-value."),
    ("__truediv__", "($self, value, /)", "Return self/value."),
    ("__xor__", "($self, value, /)", "Return self^value.")]

/-- An operation with a name of its own. -/
def method (name usage : String) (description : List String) : Feature :=
  ⟨name, .method, usage, description⟩

/-- An operation that stands for a sign or a built-in form. -/
def slot (name : String) : Feature :=
  match slotTexts.lookup name with
  | some (usage, description) => ⟨name, .slot, usage, [description]⟩
  | none => ⟨name, .slot, "", []⟩

/-- An operation on the kind itself. -/
def kindMethod (name usage : String) (description : List String) : Feature :=
  ⟨name, .kindMethod, usage, description⟩

/-- An operation without a receiver. -/
def static (name usage : String) (description : List String) : Feature :=
  ⟨name, .static, usage, description⟩

/-- The operation that makes subjects of the kind. -/
def maker : Feature :=
  ⟨"__new__", .maker, "($type, *args, **kwargs)",
    ["Create and return a new object.  See help(type) for accurate signature."]⟩

/-- A part that is computed. -/
def computed (name : String) (description : List String) : Feature :=
  ⟨name, .computed, "", description⟩

/-- A part that is stored. -/
def stored (name : String) (description : List String) : Feature :=
  ⟨name, .stored, "", description⟩

/-- The note about the kind. -/
def note (description : List String) : Feature := ⟨"__doc__", .note, "", description⟩

/-- The mark that something is missing. -/
def lack (name : String) : Feature := ⟨name, .lack, "", []⟩

/-- Whether a feature is a part of a subject, which comes before anything else of that name. -/
def isPart (feature : Feature) : Bool := feature.sort = .computed || feature.sort = .stored

/-- The description of a feature, if there is one. -/
def description? (feature : Feature) : Option String :=
  if feature.description.isEmpty then none
  else some (String.intercalate "\n" feature.description)

/-- The usage of a feature, if there is one. -/
def usage? (feature : Feature) : Option String :=
  if feature.usage.isEmpty then none else some feature.usage

end Feature
end Template
end DynLisp
