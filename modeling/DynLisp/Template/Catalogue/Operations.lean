import DynLisp.Template.Feature

/-!
# What features have

The features of features themselves, alone and on a subject, in order.
-/

namespace DynLisp
namespace Template
namespace Catalogue

/-- Features of operations with names of their own. -/
def methods : List Feature :=
  [.slot "__repr__",
    .slot "__call__",
    .slot "__getattribute__",
    .slot "__get__",
    .method "__reduce__" "" [],
    .stored "__objclass__" [],
    .stored "__name__" [],
    .computed "__doc__" [],
    .computed "__qualname__" [],
    .computed "__text_signature__" []]

/-- Features of operations that stand for a sign or a built-in form. -/
def slots : List Feature :=
  [.slot "__repr__",
    .slot "__call__",
    .slot "__getattribute__",
    .slot "__get__",
    .method "__reduce__" "" [],
    .stored "__objclass__" [],
    .stored "__name__" [],
    .computed "__doc__" [],
    .computed "__qualname__" [],
    .computed "__text_signature__" []]

/-- Features of operations on kinds. -/
def kindMethods : List Feature :=
  [.slot "__repr__",
    .slot "__call__",
    .slot "__getattribute__",
    .slot "__get__",
    .stored "__objclass__" [],
    .stored "__name__" [],
    .computed "__doc__" [],
    .computed "__qualname__" [],
    .computed "__text_signature__" []]

/-- Features of operations with names of their own on one subject. -/
def boundMethods : List Feature :=
  [.slot "__repr__",
    .slot "__hash__",
    .slot "__call__",
    .slot "__getattribute__",
    .slot "__lt__",
    .slot "__le__",
    .slot "__eq__",
    .slot "__ne__",
    .slot "__gt__",
    .slot "__ge__",
    .method "__reduce__" "" [],
    .stored "__module__" [],
    .computed "__doc__" [],
    .computed "__name__" [],
    .computed "__qualname__" [],
    .computed "__self__" [],
    .computed "__text_signature__" []]

/-- Features of operations that stand for a sign or a built-in form, on one subject. -/
def boundSlots : List Feature :=
  [.slot "__repr__",
    .slot "__hash__",
    .slot "__call__",
    .slot "__getattribute__",
    .slot "__lt__",
    .slot "__le__",
    .slot "__eq__",
    .slot "__ne__",
    .slot "__gt__",
    .slot "__ge__",
    .method "__reduce__" "" [],
    .stored "__self__" [],
    .computed "__objclass__" [],
    .computed "__name__" [],
    .computed "__qualname__" [],
    .computed "__doc__" [],
    .computed "__text_signature__" []]

/-- Features of computed parts. -/
def computedParts : List Feature :=
  [.slot "__repr__",
    .slot "__getattribute__",
    .slot "__get__",
    .slot "__set__",
    .slot "__delete__",
    .stored "__objclass__" [],
    .stored "__name__" [],
    .computed "__doc__" [],
    .computed "__qualname__" []]

/-- Features of stored parts. -/
def storedParts : List Feature :=
  [.slot "__repr__",
    .slot "__getattribute__",
    .slot "__get__",
    .slot "__set__",
    .slot "__delete__",
    .method "__reduce__" "" [],
    .stored "__objclass__" [],
    .stored "__name__" [],
    .computed "__doc__" [],
    .computed "__qualname__" []]

/-- Features of operations without a receiver. -/
def statics : List Feature :=
  [.maker,
    .slot "__repr__",
    .slot "__call__",
    .slot "__get__",
    .slot "__init__",
    .stored "__func__" [],
    .stored "__wrapped__" [],
    .computed "__isabstractmethod__" [],
    .computed "__dict__" [],
    .note
      ["staticmethod(function) -> method",
        "",
        "Convert a function to be a static method.",
        "",
        "A static method does not receive an implicit first argument.",
        "To declare a static method, use this idiom:",
        "",
        "     class C:",
        "         @staticmethod",
        "         def f(arg1, arg2, ...):",
        "             ...",
        "",
        "It can be called either on the class (e.g. C.f()) or on an instance",
        "(e.g. C().f()). Both the class and the instance are ignored, and",
        "neither is passed implicitly as the first argument to the method.",
        "",
        "Static methods in Python are similar to those found in Java or C++.",
        "For a more advanced concept, see the classmethod builtin."]]

end Catalogue
end Template
end DynLisp
