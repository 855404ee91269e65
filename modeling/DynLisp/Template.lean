import DynLisp.Template.Subject
import DynLisp.Text.Layout.Number

/-!
# Message templates

A template is text with fields in braces.  An empty field takes the next argument, a numbered field
takes the argument with that number, and the two kinds do not mix.  A doubled brace stands for
itself.  Behind its number a field may ask for a part of its argument, spell it between quotes and
set it in a column:

```
field  ::= "{" [number] ("[" key "]" | "." name)* ["!" spelling] [":" layout] "}"
```

The layout of a field may hold fields of its own, and these may not.  What is wrong with a template
is found from left to right, so that a field without an argument is noticed before a stray brace
behind it.
-/

namespace DynLisp

/-- What can be wrong with a template and its arguments. -/
inductive TemplateError where
  /-- An opening brace is the last character. -/
  | loneOpening
  /-- A closing brace neither ends a field nor is doubled. -/
  | loneClosing
  /-- The text ends inside a field. -/
  | unclosedField
  /-- An opening brace stands inside a field. -/
  | openingInField
  /-- The text ends where a spelling is expected. -/
  | missingSpelling
  /-- A spelling is followed by something other than a layout. -/
  | afterSpelling
  /-- The text ends inside a layout. -/
  | unclosedLayout
  /-- A numbered field follows an empty one. -/
  | numberedAfterEmpty
  /-- An empty field follows a numbered one. -/
  | emptyAfterNumbered
  /-- A number is too large. -/
  | tooManyDigits
  /-- A field is neither empty nor a number. -/
  | unknownField (name : String)
  /-- A field has no argument. -/
  | missingArgument (index : Nat)
  /-- A part of an argument is asked for without saying which one. -/
  | emptyPart
  /-- A closing bracket is followed by something that asks for no part. -/
  | afterBracket
  /-- A request to an argument is faulty. -/
  | subject (error : Template.SubjectError)
  /-- There is no such spelling. -/
  | unknownSpelling (code : Char)
  /-- Layouts are nested too deeply. -/
  | tooDeep
  /-- A layout is faulty. -/
  | layout (error : Text.LayoutError)
deriving DecidableEq, Repr

namespace TemplateError

/-- How a faulty template is named and worded. -/
def cause : TemplateError → Cause
  | loneOpening => .badValue "Single '\x7b' encountered in format string"
  | loneClosing => .badValue "Single '\x7d' encountered in format string"
  | unclosedField => .badValue "expected '\x7d' before end of string"
  | openingInField => .badValue "unexpected '\x7b' in field name"
  | missingSpelling => .badValue "end of string while looking for conversion specifier"
  | afterSpelling => .badValue "expected ':' after conversion specifier"
  | unclosedLayout => .badValue "unmatched '\x7b' in format spec"
  | numberedAfterEmpty =>
      .badValue "cannot switch from automatic field numbering to manual field specification"
  | emptyAfterNumbered =>
      .badValue "cannot switch from manual field specification to automatic field numbering"
  | tooManyDigits => .badValue "Too many decimal digits in format string"
  | unknownField name => .badKey (Text.quoted name)
  | missingArgument index =>
      .badIndex ("Replacement index " ++ index.repr ++ " out of range for positional args tuple")
  | emptyPart => .badValue "Empty attribute in format string"
  | afterBracket => .badValue "Only '.' or '[' may follow ']' in format field specifier"
  | subject error => error.cause
  | unknownSpelling code =>
      .badValue ("Unknown conversion specifier " ++
        if code = '\x7f' then "\\x7f" else Text.visible code)
  | tooDeep => .badValue "Max string recursion exceeded"
  | layout error => error.cause

end TemplateError

namespace Template

/-- A field as it is written. -/
structure Field where
  /-- The number, and the parts of the argument that are asked for. -/
  name : List Char
  /-- The spelling, if one is given. -/
  spelling : Option Char
  /-- The layout; it is empty if none is given. -/
  layout : List Char
deriving DecidableEq, Repr

/-- A piece of a template. -/
inductive Piece where
  /-- A character that stands for itself. -/
  | literal (character : Char)
  /-- A field. -/
  | field (field : Field)
deriving DecidableEq, Repr

/-- Where in a template a character stands. -/
inductive Place where
  /-- Outside of fields. -/
  | outside
  /-- In the name of a field, of which some has been read, and possibly in brackets. -/
  | name (read : List Char) (bracketed : Bool)
  /-- Where the spelling of a field is expected. -/
  | spelling (name : List Char)
  /-- Behind the spelling of a field. -/
  | spelled (name : List Char) (code : Char)
  /-- In the layout of a field, of which some has been read, with a number of braces open in it. -/
  | layout (name : List Char) (spelling : Option Char) (read : List Char) (depth : Nat)
deriving DecidableEq, Repr

/-- What is wrong if a template ends at a place. -/
def Place.fault? : Place → Option TemplateError
  | outside => none
  | name _ _ => some .unclosedField
  | spelling _ => some .missingSpelling
  | spelled _ _ => some .unclosedLayout
  | layout _ _ _ _ => some .unclosedLayout

/-- A piece in front of what follows it. -/
def precede (piece : Piece) (later : List Piece × Option TemplateError) :
    List Piece × Option TemplateError :=
  (piece :: later.1, later.2)

/-- The pieces of a template up to its first fault. -/
def scan (place : Place) : List Char → List Piece × Option TemplateError
  | [] => ([], place.fault?)
  | character :: rest =>
      match place with
      | .outside =>
          if character = '\x7b' then
            match rest with
            | [] => ([], some .loneOpening)
            | next :: later =>
                if next = '\x7b' then
                  precede (.literal '\x7b') (scan .outside later)
                else
                  scan (.name [] false) (next :: later)
          else if character = '\x7d' then
            match rest with
            | [] => ([], some .loneClosing)
            | next :: later =>
                if next = '\x7d' then
                  precede (.literal '\x7d') (scan .outside later)
                else
                  ([], some .loneClosing)
          else
            precede (.literal character) (scan .outside rest)
      | .name read true => scan (.name (read ++ [character]) (character != ']')) rest
      | .name read false =>
          if character = '\x7b' then
            ([], some .openingInField)
          else if character = '\x7d' then
            precede (.field ⟨read, none, []⟩) (scan .outside rest)
          else if character = '!' then
            scan (.spelling read) rest
          else if character = ':' then
            scan (.layout read none [] 0) rest
          else
            scan (.name (read ++ [character]) (character = '[')) rest
      | .spelling name => scan (.spelled name character) rest
      | .spelled name code =>
          if character = '\x7d' then
            precede (.field ⟨name, some code, []⟩) (scan .outside rest)
          else if character = ':' then
            scan (.layout name (some code) [] 0) rest
          else
            ([], some .afterSpelling)
      | .layout name spelling read depth =>
          if character = '\x7b' then
            scan (.layout name spelling (read ++ [character]) (depth + 1)) rest
          else if character = '\x7d' then
            match depth with
            | 0 => precede (.field ⟨name, spelling, read⟩) (scan .outside rest)
            | depth + 1 => scan (.layout name spelling (read ++ [character]) depth) rest
          else
            scan (.layout name spelling (read ++ [character]) depth) rest

/-- How the fields of a template are numbered. -/
inductive Numbering where
  /-- No field has been numbered. -/
  | undecided
  /-- Fields are empty; the next one takes the given argument. -/
  | automatic (next : Nat)
  /-- Fields carry their numbers. -/
  | manual
deriving DecidableEq, Repr

/-- The number that a text is, if it is one. -/
def number? (text : List Char) : Except TemplateError (Option Nat) :=
  if text.isEmpty then
    .ok none
  else
    match Text.takeCount 0 text with
    | none => .error .tooManyDigits
    | some (number, []) => .ok (some number)
    | some (_, _ :: _) => .ok none

/-- The argument that a field takes, and the numbering after it. -/
def resolve (numbering : Numbering) (name : List Char) :
    Except TemplateError (Nat × Numbering) := do
  match ← number? name with
  | some number =>
      match numbering with
      | .automatic _ => throw .numberedAfterEmpty
      | _ => pure (number, .manual)
  | none =>
      if name.isEmpty then
        match numbering with
        | .undecided => pure (0, .automatic 1)
        | .automatic next => pure (next, .automatic (next + 1))
        | .manual => throw .emptyAfterNumbered
      else
        throw (.unknownField (String.ofList name))

/-- Whether a character begins the request for a part of an argument. -/
def asksForPart (character : Char) : Bool := character = '.' || character = '['

/-- The item of a subject that is asked for between brackets. -/
def itemAt (subject : Subject) (key : List Char) : Except TemplateError Subject := do
  let number ← number? key
  if key.isEmpty then throw .emptyPart
  (subject.item (number.elim (.word (String.ofList key)) .index)).mapError .subject

/-- Where in the requests behind a number a character stands. -/
inductive Request where
  /-- In front of a request. -/
  | start
  /-- In brackets, of which some has been read. -/
  | bracketed (key : List Char)
  /-- In a name, of which some has been read. -/
  | named (name : List Char)
deriving DecidableEq, Repr

/-- The part of a subject that has been named. -/
def partNamed (subject : Subject) (name : List Char) : Except TemplateError Subject :=
  if name.isEmpty then .error .emptyPart
  else (subject.part (String.ofList name)).mapError .subject

/-- The subject that the rest of a field's name leads to. -/
def follow (subject : Subject) (request : Request) : List Char → Except TemplateError Subject
  | [] =>
      match request with
      | .named name => partNamed subject name
      | _ => .ok subject
  | character :: rest =>
      match request with
      | .bracketed key =>
          if character = ']' then
            match itemAt subject key with
            | .error error => .error error
            | .ok item => follow item .start rest
          else
            follow subject (.bracketed (key ++ [character])) rest
      | .named name =>
          if asksForPart character then
            match partNamed subject name with
            | .error error => .error error
            | .ok part => follow part (if character = '.' then .named [] else .bracketed []) rest
          else
            follow subject (.named (name ++ [character])) rest
      | .start =>
          if character = '.' then
            follow subject (.named []) rest
          else if character = '[' then
            follow subject (.bracketed []) rest
          else
            .error .afterBracket

/-- A subject in the spelling of a field; the null character spells like no spelling at all. -/
def spell (subject : Subject) : Option Char → Except TemplateError Subject
  | none => .ok subject
  | some '\x00' => .ok subject
  | some 's' => .ok (.ofString subject.shown)
  | some 'r' => .ok (.ofString subject.quoted)
  | some 'a' => .ok (.ofString (Text.asciiOnly subject.quoted))
  | some code => .error (.unknownSpelling code)

/-- A subject in the layout of a field, within some room; only texts and numbers have layouts. -/
def lay (room : Nat) (subject : Subject) (layout : List Char) : Except TemplateError String :=
  let number (sort : String) (value : Nat) :=
    ((Text.Layout.number room sort layout value).map String.ofList).mapError TemplateError.layout
  if layout.isEmpty then
    .ok subject.shown
  else
    match subject with
    | .text characters =>
        match Text.Layout.read room layout with
        | .error error => .error (.layout error)
        | .ok layout => .ok (String.ofList (layout.apply characters))
    | .number value => number Kind.numbers.name value
    | .truth value => number Kind.truths.name value.toNat
    | subject => .error (.subject (.withoutLayout subject.kindOf))

/-- The text that a field gives, and the numbering after it.  Layouts with fields of their own are
filled by `fillLayout`. -/
def fillField (room : Nat)
    (fillLayout : Numbering → List Char → Except TemplateError (String × Numbering))
    (arguments : List String) (numbering : Numbering) (field : Field) :
    Except TemplateError (String × Numbering) := do
  let (index, numbering) ← resolve numbering (field.name.takeWhile (!asksForPart ·))
  match arguments[index]? with
  | none => throw (.missingArgument index)
  | some argument =>
      let subject ← follow (.ofString argument) .start (field.name.dropWhile (!asksForPart ·))
      let subject ← spell subject field.spelling
      if field.layout.contains '\x7b' then
        let (layout, numbering) ← fillLayout numbering field.layout
        pure (← lay room subject layout.toList, numbering)
      else
        pure (← lay room subject field.layout, numbering)

/-- The text that pieces of a template give, and the numbering after them. -/
def fillPieces (room : Nat)
    (fillLayout : Numbering → List Char → Except TemplateError (String × Numbering))
    (arguments : List String) (numbering : Numbering) :
    List Piece → Except TemplateError (String × Numbering)
  | [] => .ok ("", numbering)
  | .literal character :: rest => do
      let (text, numbering) ← fillPieces room fillLayout arguments numbering rest
      pure (String.singleton character ++ text, numbering)
  | .field field :: rest => do
      let (filled, numbering) ← fillField room fillLayout arguments numbering field
      let (text, numbering) ← fillPieces room fillLayout arguments numbering rest
      pure (filled ++ text, numbering)

/-- Fills a template whose fields may be nested in layouts to the given depth. -/
def fill (room : Nat) (arguments : List String) :
    Nat → Numbering → List Char → Except TemplateError (String × Numbering)
  | 0, _, _ => .error .tooDeep
  | depth + 1, numbering, template =>
      let (pieces, fault) := scan .outside template
      match fillPieces room (fill room arguments depth) arguments numbering pieces, fault with
      | .error error, _ => .error error
      | .ok _, some error => .error error
      | .ok filled, none => .ok filled

/-- The text that a template and its arguments make, within some room. -/
def format (room : Nat) (template : String) (arguments : List String) :
    Except TemplateError String :=
  (fill room arguments 2 .undecided template.toList).map Prod.fst

/-- A template with its arguments. -/
structure Filling where
  /-- The template. -/
  template : String
  /-- The arguments, used or not. -/
  arguments : List String
deriving DecidableEq, Repr

/-- The text that a template makes with its arguments in some style. -/
def Filling.format (filling : Filling) (room : Nat) (style : String → String) :
    Except TemplateError String :=
  Template.format room filling.template (filling.arguments.map style)

end Template
end DynLisp
