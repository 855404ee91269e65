import DynLisp.Template.Feature

/-!
# What texts have

The features of texts, in order.
-/

namespace DynLisp
namespace Template
namespace Catalogue

/-- Features of texts. -/
def texts : List Feature :=
  [.maker,
    .slot "__repr__",
    .slot "__hash__",
    .slot "__str__",
    .slot "__getattribute__",
    .slot "__lt__",
    .slot "__le__",
    .slot "__eq__",
    .slot "__ne__",
    .slot "__gt__",
    .slot "__ge__",
    .slot "__iter__",
    .slot "__mod__",
    .slot "__rmod__",
    .slot "__len__",
    .slot "__getitem__",
    .slot "__add__",
    .slot "__mul__",
    .slot "__rmul__",
    .slot "__contains__",
    .method "encode" "($self, /, encoding='utf-8', errors='strict')"
      ["Encode the string using the codec registered for encoding.",
        "",
        "  encoding",
        "    The encoding in which to encode the string.",
        "  errors",
        "    The error handling scheme to use for encoding errors.",
        "    The default is 'strict' meaning that encoding errors raise a",
        "    UnicodeEncodeError.  Other possible values are 'ignore', 'replace' and",
        "    'xmlcharrefreplace' as well as any other name registered with",
        "    codecs.register_error that can handle UnicodeEncodeErrors."],
    .method "replace" "($self, old, new, count=-1, /)"
      ["Return a copy with all occurrences of substring old replaced by new.",
        "",
        "  count",
        "    Maximum number of occurrences to replace.",
        "    -1 (the default value) means replace all occurrences.",
        "",
        "If the optional argument count is given, only the first count occurrences are",
        "replaced."],
    .method "split" "($self, /, sep=None, maxsplit=-1)"
      ["Return a list of the substrings in the string, using sep as the separator string.",
        "",
        "  sep",
        "    The separator used to split the string.",
        "",
        "    When set to None (the default value), will split on any whitespace",
        "    character (including \\\\n \\\\r \\\\t \\\\f and spaces) and will discard",
        "    empty strings from the result.",
        "  maxsplit",
        "    Maximum number of splits (starting from the left).",
        "    -1 (the default value) means no limit.",
        "",
        "Note, str.split() is mainly useful for data that has been intentionally",
        "delimited.  With natural text that includes punctuation, consider using",
        "the regular expression module."],
    .method "rsplit" "($self, /, sep=None, maxsplit=-1)"
      ["Return a list of the substrings in the string, using sep as the separator string.",
        "",
        "  sep",
        "    The separator used to split the string.",
        "",
        "    When set to None (the default value), will split on any whitespace",
        "    character (including \\\\n \\\\r \\\\t \\\\f and spaces) and will discard",
        "    empty strings from the result.",
        "  maxsplit",
        "    Maximum number of splits (starting from the left).",
        "    -1 (the default value) means no limit.",
        "",
        "Splitting starts at the end of the string and works to the front."],
    .method "join" "($self, iterable, /)"
      ["Concatenate any number of strings.",
        "",
        "The string whose method is called is inserted in between each given string.",
        "The result is returned as a new string.",
        "",
        "Example: '.'.join(['ab', 'pq', 'rs']) -> 'ab.pq.rs'"],
    .method "capitalize" "($self, /)"
      ["Return a capitalized version of the string.",
        "",
        "More specifically, make the first character have upper case and the rest lower",
        "case."],
    .method "casefold" "($self, /)"
      ["Return a version of the string suitable for caseless comparisons."],
    .method "title" "($self, /)"
      ["Return a version of the string where each word is titlecased.",
        "",
        "More specifically, words start with uppercased characters and all remaining",
        "cased characters have lower case."],
    .method "center" "($self, width, fillchar=' ', /)"
      ["Return a centered string of length width.",
        "",
        "Padding is done using the specified fill character (default is a space)."],
    .method "count" ""
      ["S.count(sub[, start[, end]]) -> int",
        "",
        "Return the number of non-overlapping occurrences of substring sub in",
        "string S[start:end].  Optional arguments start and end are",
        "interpreted as in slice notation."],
    .method "expandtabs" "($self, /, tabsize=8)"
      ["Return a copy where all tab characters are expanded using spaces.",
        "",
        "If tabsize is not given, a tab size of 8 characters is assumed."],
    .method "find" ""
      ["S.find(sub[, start[, end]]) -> int",
        "",
        "Return the lowest index in S where substring sub is found,",
        "such that sub is contained within S[start:end].  Optional",
        "arguments start and end are interpreted as in slice notation.",
        "",
        "Return -1 on failure."],
    .method "partition" "($self, sep, /)"
      ["Partition the string into three parts using the given separator.",
        "",
        "This will search for the separator in the string.  If the separator is found,",
        "returns a 3-tuple containing the part before the separator, the separator",
        "itself, and the part after it.",
        "",
        "If the separator is not found, returns a 3-tuple containing the original string",
        "and two empty strings."],
    .method "index" ""
      ["S.index(sub[, start[, end]]) -> int",
        "",
        "Return the lowest index in S where substring sub is found,",
        "such that sub is contained within S[start:end].  Optional",
        "arguments start and end are interpreted as in slice notation.",
        "",
        "Raises ValueError when the substring is not found."],
    .method "ljust" "($self, width, fillchar=' ', /)"
      ["Return a left-justified string of length width.",
        "",
        "Padding is done using the specified fill character (default is a space)."],
    .method "lower" "($self, /)" ["Return a copy of the string converted to lowercase."],
    .method "lstrip" "($self, chars=None, /)"
      ["Return a copy of the string with leading whitespace removed.",
        "",
        "If chars is given and not None, remove characters in chars instead."],
    .method "rfind" ""
      ["S.rfind(sub[, start[, end]]) -> int",
        "",
        "Return the highest index in S where substring sub is found,",
        "such that sub is contained within S[start:end].  Optional",
        "arguments start and end are interpreted as in slice notation.",
        "",
        "Return -1 on failure."],
    .method "rindex" ""
      ["S.rindex(sub[, start[, end]]) -> int",
        "",
        "Return the highest index in S where substring sub is found,",
        "such that sub is contained within S[start:end].  Optional",
        "arguments start and end are interpreted as in slice notation.",
        "",
        "Raises ValueError when the substring is not found."],
    .method "rjust" "($self, width, fillchar=' ', /)"
      ["Return a right-justified string of length width.",
        "",
        "Padding is done using the specified fill character (default is a space)."],
    .method "rstrip" "($self, chars=None, /)"
      ["Return a copy of the string with trailing whitespace removed.",
        "",
        "If chars is given and not None, remove characters in chars instead."],
    .method "rpartition" "($self, sep, /)"
      ["Partition the string into three parts using the given separator.",
        "",
        "This will search for the separator in the string, starting at the end. If",
        "the separator is found, returns a 3-tuple containing the part before the",
        "separator, the separator itself, and the part after it.",
        "",
        "If the separator is not found, returns a 3-tuple containing two empty strings",
        "and the original string."],
    .method "splitlines" "($self, /, keepends=False)"
      ["Return a list of the lines in the string, breaking at line boundaries.",
        "",
        "Line breaks are not included in the resulting list unless keepends is given and",
        "true."],
    .method "strip" "($self, chars=None, /)"
      ["Return a copy of the string with leading and trailing whitespace removed.",
        "",
        "If chars is given and not None, remove characters in chars instead."],
    .method "swapcase" "($self, /)"
      ["Convert uppercase characters to lowercase and lowercase characters to uppercase."],
    .method "translate" "($self, table, /)"
      ["Replace each character in the string using the given translation table.",
        "",
        "  table",
        "    Translation table, which must be a mapping of Unicode ordinals to",
        "    Unicode ordinals, strings, or None.",
        "",
        "The table must implement lookup/indexing via __getitem__, for instance a",
        "dictionary or list.  If this operation raises LookupError, the character is",
        "left untouched.  Characters mapped to None are deleted."],
    .method "upper" "($self, /)" ["Return a copy of the string converted to uppercase."],
    .method "startswith" ""
      ["S.startswith(prefix[, start[, end]]) -> bool",
        "",
        "Return True if S starts with the specified prefix, False otherwise.",
        "With optional start, test S beginning at that position.",
        "With optional end, stop comparing S at that position.",
        "prefix can also be a tuple of strings to try."],
    .method "endswith" ""
      ["S.endswith(suffix[, start[, end]]) -> bool",
        "",
        "Return True if S ends with the specified suffix, False otherwise.",
        "With optional start, test S beginning at that position.",
        "With optional end, stop comparing S at that position.",
        "suffix can also be a tuple of strings to try."],
    .method "removeprefix" "($self, prefix, /)"
      ["Return a str with the given prefix string removed if present.",
        "",
        "If the string starts with the prefix string, return string[len(prefix):].",
        "Otherwise, return a copy of the original string."],
    .method "removesuffix" "($self, suffix, /)"
      ["Return a str with the given suffix string removed if present.",
        "",
        "If the string ends with the suffix string and that suffix is not empty,",
        "return string[:-len(suffix)]. Otherwise, return a copy of the original",
        "string."],
    .method "isascii" "($self, /)"
      ["Return True if all characters in the string are ASCII, False otherwise.",
        "",
        "ASCII characters have code points in the range U+0000-U+007F.",
        "Empty string is ASCII too."],
    .method "islower" "($self, /)"
      ["Return True if the string is a lowercase string, False otherwise.",
        "",
        "A string is lowercase if all cased characters in the string are lowercase and",
        "there is at least one cased character in the string."],
    .method "isupper" "($self, /)"
      ["Return True if the string is an uppercase string, False otherwise.",
        "",
        "A string is uppercase if all cased characters in the string are uppercase and",
        "there is at least one cased character in the string."],
    .method "istitle" "($self, /)"
      ["Return True if the string is a title-cased string, False otherwise.",
        "",
        "In a title-cased string, upper- and title-case characters may only",
        "follow uncased characters and lowercase characters only cased ones."],
    .method "isspace" "($self, /)"
      ["Return True if the string is a whitespace string, False otherwise.",
        "",
        "A string is whitespace if all characters in the string are whitespace and there",
        "is at least one character in the string."],
    .method "isdecimal" "($self, /)"
      ["Return True if the string is a decimal string, False otherwise.",
        "",
        "A string is a decimal string if all characters in the string are decimal and",
        "there is at least one character in the string."],
    .method "isdigit" "($self, /)"
      ["Return True if the string is a digit string, False otherwise.",
        "",
        "A string is a digit string if all characters in the string are digits and there",
        "is at least one character in the string."],
    .method "isnumeric" "($self, /)"
      ["Return True if the string is a numeric string, False otherwise.",
        "",
        "A string is numeric if all characters in the string are numeric and there is at",
        "least one character in the string."],
    .method "isalpha" "($self, /)"
      ["Return True if the string is an alphabetic string, False otherwise.",
        "",
        "A string is alphabetic if all characters in the string are alphabetic and there",
        "is at least one character in the string."],
    .method "isalnum" "($self, /)"
      ["Return True if the string is an alpha-numeric string, False otherwise.",
        "",
        "A string is alpha-numeric if all characters in the string are alpha-numeric and",
        "there is at least one character in the string."],
    .method "isidentifier" "($self, /)"
      ["Return True if the string is a valid Python identifier, False otherwise.",
        "",
        "Call keyword.iskeyword(s) to test whether string s is a reserved identifier,",
        "such as \"def\" or \"class\"."],
    .method "isprintable" "($self, /)"
      ["Return True if the string is printable, False otherwise.",
        "",
        "A string is printable if all of its characters are considered printable in",
        "repr() or if it is empty."],
    .method "zfill" "($self, width, /)"
      ["Pad a numeric string with zeros on the left, to fill a field of the given width.",
        "",
        "The string is never truncated."],
    .method "format" ""
      ["S.format(*args, **kwargs) -> str",
        "",
        "Return a formatted version of S, using substitutions from args and kwargs.",
        "The substitutions are identified by braces ('\x7b' and '\x7d')."],
    .method "format_map" ""
      ["S.format_map(mapping) -> str",
        "",
        "Return a formatted version of S, using substitutions from mapping.",
        "The substitutions are identified by braces ('\x7b' and '\x7d')."],
    .method "__format__" "($self, format_spec, /)"
      ["Return a formatted version of the string as described by format_spec."],
    .static "maketrans" "(x, y=<unrepresentable>, z=<unrepresentable>, /)"
      ["Return a translation table usable for str.translate().",
        "",
        "If there is only one argument, it must be a dictionary mapping Unicode",
        "ordinals (integers) or characters to Unicode ordinals, strings or None.",
        "Character keys will be then converted to ordinals.",
        "If there are two arguments, they must be strings of equal length, and",
        "in the resulting dictionary, each character in x will be mapped to the",
        "character at the same position in y. If there is a third argument, it",
        "must be a string, whose characters will be mapped to None in the result."],
    .method "__sizeof__" "($self, /)" ["Return the size of the string in memory, in bytes."],
    .method "__getnewargs__" "" [],
    .note
      ["str(object='') -> str",
        "str(bytes_or_buffer[, encoding[, errors]]) -> str",
        "",
        "Create a new string object from the given object. If encoding or",
        "errors is specified, then the object must expose a data buffer",
        "that will be decoded using the given encoding and error handler.",
        "Otherwise, returns the result of object.__str__() (if defined)",
        "or repr(object).",
        "encoding defaults to sys.getdefaultencoding().",
        "errors defaults to 'strict'."]]

end Catalogue
end Template
end DynLisp
