import DynLisp.Template.Feature

/-!
# What rows and tables have

The features of rows, of tables, of catalogues and of nothing, in order.
-/

namespace DynLisp
namespace Template
namespace Catalogue

/-- Features of rows. -/
def rows : List Feature :=
  [.maker,
    .slot "__repr__",
    .slot "__hash__",
    .slot "__getattribute__",
    .slot "__lt__",
    .slot "__le__",
    .slot "__eq__",
    .slot "__ne__",
    .slot "__gt__",
    .slot "__ge__",
    .slot "__iter__",
    .slot "__len__",
    .slot "__getitem__",
    .slot "__add__",
    .slot "__mul__",
    .slot "__rmul__",
    .slot "__contains__",
    .method "__getnewargs__" "($self, /)" [],
    .method "index" "($self, value, start=0, stop=sys.maxsize, /)"
      ["Return first index of value.", "", "Raises ValueError if the value is not present."],
    .method "count" "($self, value, /)" ["Return number of occurrences of value."],
    .kindMethod "__class_getitem__" "" ["See PEP 585"],
    .note
      ["Built-in immutable sequence.",
        "",
        "If no argument is given, the constructor returns an empty tuple.",
        "If iterable is specified the tuple is initialized from iterable's items.",
        "",
        "If the argument is a tuple, the return value is the same object."]]

/-- Features of tables. -/
def tables : List Feature :=
  [.maker,
    .slot "__repr__",
    .lack "__hash__",
    .slot "__getattribute__",
    .slot "__lt__",
    .slot "__le__",
    .slot "__eq__",
    .slot "__ne__",
    .slot "__gt__",
    .slot "__ge__",
    .slot "__iter__",
    .slot "__init__",
    .slot "__or__",
    .slot "__ror__",
    .slot "__ior__",
    .slot "__len__",
    .method "__getitem__" "" ["x.__getitem__(y) <==> x[y]"],
    .slot "__setitem__",
    .slot "__delitem__",
    .method "__contains__" "($self, key, /)"
      ["True if the dictionary has the specified key, else False."],
    .method "__sizeof__" "" ["D.__sizeof__() -> size of D in memory, in bytes"],
    .method "get" "($self, key, default=None, /)"
      ["Return the value for key if key is in the dictionary, else default."],
    .method "setdefault" "($self, key, default=None, /)"
      ["Insert key with a value of default if key is not in the dictionary.",
        "",
        "Return the value for key if key is in the dictionary, else default."],
    .method "pop" "($self, key, default=<unrepresentable>, /)"
      ["D.pop(k[,d]) -> v, remove specified key and return the corresponding value.",
        "",
        "If the key is not found, return the default if given; otherwise,",
        "raise a KeyError."],
    .method "popitem" "($self, /)"
      ["Remove and return a (key, value) pair as a 2-tuple.",
        "",
        "Pairs are returned in LIFO (last-in, first-out) order.",
        "Raises KeyError if the dict is empty."],
    .method "keys" "" ["D.keys() -> a set-like object providing a view on D's keys"],
    .method "items" "" ["D.items() -> a set-like object providing a view on D's items"],
    .method "values" "" ["D.values() -> an object providing a view on D's values"],
    .method "update" ""
      ["D.update([E, ]**F) -> None.  Update D from dict/iterable E and F.",
        "If E is present and has a .keys() method, then does:  for k in E: D[k] = E[k]",
        "If E is present and lacks a .keys() method, then does:  for k, v in E: D[k] = v",
        "In either case, this is followed by: for k in F:  D[k] = F[k]"],
    .kindMethod "fromkeys" "($type, iterable, value=None, /)"
      ["Create a new dictionary with keys from iterable and values set to value."],
    .method "clear" "" ["D.clear() -> None.  Remove all items from D."],
    .method "copy" "" ["D.copy() -> a shallow copy of D"],
    .method "__reversed__" "($self, /)" ["Return a reverse iterator over the dict keys."],
    .kindMethod "__class_getitem__" "" ["See PEP 585"],
    .note
      ["dict() -> new empty dictionary",
        "dict(mapping) -> new dictionary initialized from a mapping object's",
        "    (key, value) pairs",
        "dict(iterable) -> new dictionary initialized as if via:",
        "    d = \x7b\x7d",
        "    for k, v in iterable:",
        "        d[k] = v",
        "dict(**kwargs) -> new dictionary initialized with the name=value pairs",
        "    in the keyword argument list.  For example:  dict(one=1, two=2)"]]

/-- Features of catalogues. -/
def catalogues : List Feature :=
  [.maker,
    .slot "__repr__",
    .slot "__str__",
    .slot "__getattribute__",
    .slot "__lt__",
    .slot "__le__",
    .slot "__eq__",
    .slot "__ne__",
    .slot "__gt__",
    .slot "__ge__",
    .slot "__iter__",
    .slot "__or__",
    .slot "__ror__",
    .slot "__ior__",
    .slot "__len__",
    .slot "__getitem__",
    .slot "__contains__",
    .method "get" "" ["D.get(k[,d]) -> D[k] if k in D, else d.  d defaults to None."],
    .method "keys" "" ["D.keys() -> a set-like object providing a view on D's keys"],
    .method "values" "" ["D.values() -> an object providing a view on D's values"],
    .method "items" "" ["D.items() -> a set-like object providing a view on D's items"],
    .method "copy" "" ["D.copy() -> a shallow copy of D"],
    .kindMethod "__class_getitem__" "" ["See PEP 585"],
    .method "__reversed__" "" ["D.__reversed__() -> reverse iterator"],
    .lack "__doc__",
    .lack "__hash__"]

/-- Features of nothing. -/
def nothing : List Feature :=
  [.maker,
    .slot "__repr__",
    .slot "__bool__",
    .lack "__doc__"]

end Catalogue
end Template
end DynLisp
