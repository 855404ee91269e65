import DynLisp.Template.Feature

/-!
# What kinds have

The features of kinds, of kinds with a key, and of everything, in order.
-/

namespace DynLisp
namespace Template
namespace Catalogue

/-- Features of everything. -/
def things : List Feature :=
  [.maker,
    .slot "__repr__",
    .slot "__hash__",
    .slot "__str__",
    .slot "__getattribute__",
    .slot "__setattr__",
    .slot "__delattr__",
    .slot "__lt__",
    .slot "__le__",
    .slot "__eq__",
    .slot "__ne__",
    .slot "__gt__",
    .slot "__ge__",
    .slot "__init__",
    .method "__reduce_ex__" "($self, protocol, /)" ["Helper for pickle."],
    .method "__reduce__" "($self, /)" ["Helper for pickle."],
    .method "__getstate__" "($self, /)" ["Helper for pickle."],
    .kindMethod "__subclasshook__" ""
      ["Abstract classes can override this to customize issubclass().",
        "",
        "This is invoked early on by abc.ABCMeta.__subclasscheck__().",
        "It should return True, False or NotImplemented.  If it returns",
        "NotImplemented, the normal algorithm is used.  Otherwise, it",
        "overrides the normal algorithm (and the outcome is cached).",
        ""],
    .kindMethod "__init_subclass__" ""
      ["This method is called when a class is subclassed.",
        "",
        "The default implementation does nothing. It may be",
        "overridden to extend subclasses.",
        ""],
    .method "__format__" "($self, format_spec, /)" ["Default object formatter."],
    .method "__sizeof__" "($self, /)" ["Size of object in memory, in bytes."],
    .method "__dir__" "($self, /)" ["Default dir() implementation."],
    .computed "__class__" ["the object's class"],
    .note
      ["The base class of the class hierarchy.",
        "",
        "When called, it accepts no arguments and returns a new featureless",
        "instance that has no instance attributes and cannot be given any.",
        ""]]

/-- Features of kinds. -/
def kinds : List Feature :=
  [.maker,
    .slot "__repr__",
    .slot "__call__",
    .slot "__getattribute__",
    .slot "__setattr__",
    .slot "__delattr__",
    .slot "__init__",
    .slot "__or__",
    .slot "__ror__",
    .method "mro" "($self, /)" ["Return a type's method resolution order."],
    .method "__subclasses__" "($self, /)" ["Return a list of immediate subclasses."],
    .kindMethod "__prepare__" ""
      ["__prepare__() -> dict", "used to create the namespace for the class statement"],
    .method "__instancecheck__" "($self, instance, /)" ["Check if an object is an instance."],
    .method "__subclasscheck__" "($self, subclass, /)" ["Check if a class is a subclass."],
    .method "__dir__" "($self, /)" ["Specialized __dir__ implementation for types."],
    .method "__sizeof__" "($self, /)" ["Return memory consumption of the type object."],
    .stored "__basicsize__" [],
    .stored "__itemsize__" [],
    .stored "__flags__" [],
    .stored "__weakrefoffset__" [],
    .stored "__base__" [],
    .stored "__dictoffset__" [],
    .stored "__mro__" [],
    .computed "__name__" [],
    .computed "__qualname__" [],
    .computed "__bases__" [],
    .computed "__module__" [],
    .computed "__abstractmethods__" [],
    .computed "__dict__" [],
    .computed "__doc__" [],
    .computed "__text_signature__" [],
    .computed "__annotations__" []]

/-- Features of kinds with a key. -/
def keyedKinds : List Feature :=
  [.maker,
    .slot "__repr__",
    .slot "__hash__",
    .slot "__call__",
    .slot "__getattribute__",
    .slot "__lt__",
    .slot "__le__",
    .slot "__eq__",
    .slot "__ne__",
    .slot "__gt__",
    .slot "__ge__",
    .slot "__iter__",
    .slot "__or__",
    .slot "__ror__",
    .slot "__getitem__",
    .method "__mro_entries__" "" [],
    .method "__instancecheck__" "" [],
    .method "__subclasscheck__" "" [],
    .method "__reduce__" "" [],
    .method "__dir__" "" [],
    .stored "__origin__" [],
    .stored "__args__" [],
    .stored "__unpacked__" [],
    .computed "__parameters__" ["Type variables in the GenericAlias."],
    .computed "__typing_unpacked_tuple_args__" [],
    .note
      ["Represent a PEP 585 generic type",
        "",
        "E.g. for t = list[int], t.__origin__ is list and t.__args__ is (int,)."]]

end Catalogue
end Template
end DynLisp
