import DynLisp.Wording
import Mathlib.Data.List.TakeWhile

/-!
# Templates and their arguments

A field that asks for an argument as it is, without a part, a spelling or a layout, is filled with
the argument whatever its characters are.  A template whose fields are all of this kind can
therefore be arranged knowing no more than the number of arguments: `Template.arrangement` says
which characters and which arguments come one after the other, or what is wrong.  Filling the
template is putting the arguments in (`Template.format_eq_arrangement`), however much room there is,
and putting bold arguments in gives the same text but for the sequences that turn bold on and off.
So the text of a notice is never interpreted again, which is `Notice.arguments_uninterpreted`.
-/

namespace DynLisp
namespace Template

/-- Whether a field asks for an argument as it is: for no part of it, in no spelling and in no
layout. -/
def Field.IsPlain (field : Field) : Prop :=
  (∀ character ∈ field.name, asksForPart character = false) ∧ field.spelling = none ∧
    field.layout = []

/-- Whether all fields of a template, up to its first fault, ask for arguments as they are. -/
def IsPlain (template : String) : Prop :=
  ∀ field, Piece.field field ∈ (scan .outside template.toList).1 → field.IsPlain

/-- A part of a filled template. -/
inductive Part where
  /-- A character of the template. -/
  | own (character : Char)
  /-- The argument with a number. -/
  | argument (index : Nat)
deriving DecidableEq, Repr

/-- The text of a part. -/
def Part.text (arguments : List String) : Part → String
  | own character => String.singleton character
  | argument index => arguments.getD index ""

/-- The text that parts make. -/
def compose (arguments : List String) (parts : List Part) : String :=
  String.join (parts.map (Part.text arguments))

/-- What pieces of a template are made of, knowing the number of arguments only. -/
def arrange (count : Nat) (numbering : Numbering) : List Piece → Except TemplateError (List Part)
  | [] => .ok []
  | .literal character :: rest => (arrange count numbering rest).map (.own character :: ·)
  | .field field :: rest =>
      match resolve numbering field.name with
      | .error error => .error error
      | .ok (index, numbering) =>
          if index < count then
            (arrange count numbering rest).map (.argument index :: ·)
          else
            .error (.missingArgument index)

/-- What a template is made of, knowing the number of arguments only. -/
def arrangement (template : String) (count : Nat) : Except TemplateError (List Part) :=
  let (pieces, fault) := scan .outside template.toList
  match arrange count .undecided pieces, fault with
  | .error error, _ => .error error
  | .ok _, some error => .error error
  | .ok parts, none => .ok parts

/-- A plain field is filled with its argument as it is. -/
theorem fillField_of_isPlain (room : Nat) {field : Field} (plain : field.IsPlain)
    (fillLayout : Numbering → List Char → Except TemplateError (String × Numbering))
    (arguments : List String) (numbering : Numbering) :
    fillField room fillLayout arguments numbering field =
      match resolve numbering field.name with
      | .error error => .error error
      | .ok (index, numbering) =>
          if index < arguments.length then .ok (arguments.getD index "", numbering)
          else .error (.missingArgument index) := by
  obtain ⟨whole, spelling, layout⟩ := plain
  have name : field.name.takeWhile (!asksForPart ·) = field.name :=
    List.takeWhile_eq_self_iff.mpr fun character member => by simp [whole character member]
  have parts : field.name.dropWhile (!asksForPart ·) = [] :=
    List.dropWhile_eq_nil_iff.mpr fun character member => by simp [whole character member]
  simp only [fillField, name, parts, spelling, layout]
  cases resolve numbering field.name with
  | error error => rfl
  | ok resolved =>
      obtain ⟨index, numbering⟩ := resolved
      by_cases inside : index < arguments.length
      · simp [inside, follow, spell, lay, Subject.ofString, Subject.shown, bind, Except.bind, pure,
          Except.pure]
      · simp [inside, bind, Except.bind, throw, throwThe, MonadExceptOf.throw]

theorem compose_cons (arguments : List String) (part : Part) (parts : List Part) :
    compose arguments (part :: parts) = part.text arguments ++ compose arguments parts := by
  simp [compose]

/-- Two computations whose results are the same in some respect fail alike or succeed both. -/
theorem cases_of_map_eq {ε α β γ : Type} {view : α → γ} {view' : β → γ} {left : Except ε α}
    {right : Except ε β} (same : left.map view = right.map view') :
    (∃ error, left = .error error ∧ right = .error error) ∨
      ∃ value value', left = .ok value ∧ right = .ok value' ∧ view value = view' value' := by
  cases left with
  | error error =>
      cases right with
      | error error' => exact .inl ⟨error, rfl, congrArg Except.error (Except.error.inj same).symm⟩
      | ok value' => cases same
  | ok value =>
      cases right with
      | error error' => cases same
      | ok value' => exact .inr ⟨value, value', rfl, rfl, Except.ok.inj same⟩

theorem exists_of_map_eq_ok {ε α β : Type} {view : α → β} {computed : Except ε α} {value : β}
    (mapped : computed.map view = .ok value) :
    ∃ viewed, computed = .ok viewed ∧ view viewed = value := by
  cases computed with
  | error error => cases mapped
  | ok viewed => exact ⟨viewed, rfl, Except.ok.inj mapped⟩

/-- One more part in front of what is filled is one more part in front of what is arranged. -/
theorem filled_cons {arguments : List String} {filled : Except TemplateError (String × Numbering)}
    {arranged : Except TemplateError (List Part)}
    (same : filled.map Prod.fst = arranged.map (compose arguments)) (part : Part) :
    (do let (text, numbering) ← filled
        pure (part.text arguments ++ text, numbering)).map Prod.fst =
      (arranged.map (part :: ·)).map (compose arguments) := by
  obtain ⟨error, rfl, rfl⟩ | ⟨⟨text, numbering⟩, parts, rfl, rfl, text_eq⟩ := cases_of_map_eq same
  · rfl
  · change Except.ok (part.text arguments ++ text) = .ok (compose arguments (part :: parts))
    rw [compose_cons, ← text_eq]

/-- Plain pieces are filled by putting the arguments where they are arranged to stand. -/
theorem fillPieces_eq_arrange (room : Nat) {pieces : List Piece}
    (plain : ∀ field, Piece.field field ∈ pieces → field.IsPlain)
    (fillLayout : Numbering → List Char → Except TemplateError (String × Numbering))
    (arguments : List String) (numbering : Numbering) :
    (fillPieces room fillLayout arguments numbering pieces).map Prod.fst =
      (arrange arguments.length numbering pieces).map (compose arguments) := by
  induction pieces generalizing numbering with
  | nil => rfl
  | cons piece pieces ih =>
      have later := ih fun field member => plain field (List.mem_cons_of_mem piece member)
      cases piece with
      | literal character => exact filled_cons (later numbering) (.own character)
      | field field =>
          have filled := fillField_of_isPlain room (plain field List.mem_cons_self) fillLayout
            arguments numbering
          rw [fillPieces, arrange, filled]
          cases resolve numbering field.name with
          | error error => rfl
          | ok resolved =>
              obtain ⟨index, numbering⟩ := resolved
              by_cases inside : index < arguments.length
              · simp only [inside, if_true]
                exact filled_cons (later numbering) (.argument index)
              · simp only [inside, if_false]
                rfl

/-- Filling a plain template is putting the arguments where they are arranged to stand. -/
theorem format_eq_arrangement (room : Nat) {template : String} (plain : IsPlain template)
    (arguments : List String) :
    format room template arguments =
      (arrangement template arguments.length).map (compose arguments) := by
  have same := fillPieces_eq_arrange room plain (fill room arguments 1) arguments .undecided
  rw [format, fill, arrangement]
  generalize scan .outside template.toList = scanned at same ⊢
  obtain ⟨pieces, fault⟩ := scanned
  obtain ⟨error, filled, arranged⟩ | ⟨⟨text, numbering⟩, parts, filled, arranged, text_eq⟩ :=
    cases_of_map_eq same
  · simp only [filled, arranged]
    rfl
  · simp only [filled, arranged]
    cases fault with
    | none => exact congrArg Except.ok text_eq
    | some error => rfl

end Template

namespace Text

/-- A text without the sequences that turn bold on and off. -/
def unstyled : List Char → List Char
  | '\x1b' :: '[' :: '1' :: 'm' :: rest => unstyled rest
  | '\x1b' :: '[' :: '0' :: 'm' :: rest => unstyled rest
  | character :: rest => character :: unstyled rest
  | [] => []

theorem unstyled_append {text : List Char} (unescaped : escape ∉ text) (rest : List Char) :
    unstyled (text ++ rest) = text ++ unstyled rest := by
  induction text with
  | nil => rfl
  | cons character text ih =>
      rw [List.mem_cons, not_or] at unescaped
      have other : character ≠ '\x1b' := fun same => unescaped.1 same.symm
      simp [unstyled, other, ih unescaped.2]

end Text

/-- A bold text without the sequences around it, if there are any. -/
theorem Platform.SetsBold.unstyled_append {platform : Platform} (bolds : platform.SetsBold)
    (color : Bool) {text : String} (unescaped : Text.escape ∉ text.toList) (rest : List Char) :
    Text.unstyled ((platform.bold color text).toList ++ rest) =
      text.toList ++ Text.unstyled rest := by
  cases color with
  | false =>
      rw [bolds.off]
      exact Text.unstyled_append unescaped rest
  | true =>
      have bold_eq : (platform.bold true text).toList ++ rest = '\x1b' :: '[' :: '1' :: 'm' ::
          (text.toList ++ '\x1b' :: '[' :: '0' :: 'm' :: rest) := by
        simp [bolds.on, Text.boldSequence, Text.resetSequence, Text.escape]
      rw [bold_eq, Text.unstyled, Text.unstyled_append unescaped, Text.unstyled]

namespace Template

/-- The characters of a template that stand for themselves are in its text. -/
theorem mem_of_literal_mem_scan {place : Place} {text : List Char} {character : Char}
    (literal : Piece.literal character ∈ (scan place text).1) : character ∈ text := by
  fun_induction scan place text <;> grind [precede]

theorem literal_mem_of_arrange {count : Nat} {numbering : Numbering} {pieces : List Piece}
    {parts : List Part} (arranged : arrange count numbering pieces = .ok parts) {character : Char}
    (member : Part.own character ∈ parts) : Piece.literal character ∈ pieces := by
  induction pieces generalizing numbering parts with
  | nil =>
      cases arranged
      cases member
  | cons piece pieces ih =>
      cases piece with
      | literal first =>
          obtain ⟨later, arranged_later, rfl⟩ := exists_of_map_eq_ok arranged
          rcases List.mem_cons.mp member with same | member
          · cases same
            exact List.mem_cons_self
          · exact List.mem_cons_of_mem _ (ih arranged_later member)
      | field field =>
          rw [arrange] at arranged
          split at arranged
          next => cases arranged
          next index numbering resolved =>
            split at arranged
            next inside =>
              obtain ⟨later, arranged_later, rfl⟩ := exists_of_map_eq_ok arranged
              rcases List.mem_cons.mp member with same | member
              · cases same
              · exact List.mem_cons_of_mem _ (ih arranged_later member)
            next => cases arranged

/-- Putting bold arguments in and taking the sequences away again is putting the arguments in. -/
theorem unstyled_compose {platform : Platform} (bolds : platform.SetsBold) (color : Bool)
    {arguments : List String} {parts : List Part}
    (unescaped : ∀ argument ∈ arguments, Text.escape ∉ argument.toList)
    (own : ∀ character, Part.own character ∈ parts → character ≠ Text.escape) :
    Text.unstyled (compose (arguments.map (platform.bold color)) parts).toList =
      (compose arguments parts).toList := by
  induction parts with
  | nil => rfl
  | cons part parts ih =>
      have later := ih fun character member => own character (List.mem_cons_of_mem part member)
      rw [compose_cons, compose_cons, String.toList_append, String.toList_append]
      cases part with
      | own character =>
          have other := own character List.mem_cons_self
          have unescaped : Text.escape ∉ (String.singleton character).toList := by
            simpa using Ne.symm other
          exact (Text.unstyled_append unescaped _).trans (congrArg _ later)
      | argument index =>
          simp only [Part.text, List.getD_eq_getElem?_getD, List.getElem?_map]
          cases given : arguments[index]? with
          | none => exact later
          | some argument =>
              have unescaped := unescaped argument (List.mem_of_getElem? given)
              exact (bolds.unstyled_append color unescaped _).trans (congrArg _ later)

theorem pieces_of_arrangement {template : String} {count : Nat} {parts : List Part}
    (arranged : arrangement template count = .ok parts) :
    arrange count .undecided (scan .outside template.toList).1 = .ok parts := by
  rw [arrangement] at arranged
  generalize scan .outside template.toList = scanned at arranged ⊢
  obtain ⟨pieces, fault⟩ := scanned
  cases given : arrange count .undecided pieces with
  | error error => simp [given] at arranged
  | ok parts' =>
      cases fault with
      | some error => simp [given] at arranged
      | none => simpa [given] using arranged

/-- What is filled with arguments is filled with bold ones, and the text is the same but for the
sequences that turn bold on and off. -/
theorem format_bold {platform : Platform} (bolds : platform.SetsBold) {template : String}
    (plain : IsPlain template) {arguments : List String} {text : String}
    (filled : format platform.room template arguments = .ok text) (color : Bool) :
    ∃ shown, format platform.room template (arguments.map (platform.bold color)) = .ok shown ∧
      (color = false → shown = text) ∧
      (Text.escape ∉ template.toList →
        (∀ argument ∈ arguments, Text.escape ∉ argument.toList) →
          Text.unstyled shown.toList = text.toList) := by
  rw [format_eq_arrangement _ plain] at filled
  obtain ⟨parts, arranged, rfl⟩ := exists_of_map_eq_ok filled
  refine ⟨compose (arguments.map (platform.bold color)) parts, ?_, ?_, ?_⟩
  · rw [format_eq_arrangement _ plain, List.length_map, arranged]
    rfl
  · rintro rfl
    rw [List.map_id'' bolds.off]
  · intro unescaped_template unescaped
    refine unstyled_compose bolds color unescaped fun character member => ?_
    rintro rfl
    have literal := literal_mem_of_arrange (pieces_of_arrangement arranged) member
    exact unescaped_template (mem_of_literal_mem_scan literal)

end Template

/-! ### Messages -/

namespace Template

/-- The pieces of the template of a fragment. -/
def fragmentPieces : Fragment → List Piece
  | .plain text => text.toList.map .literal
  | .marked _ => [.field ⟨[], none, []⟩]

theorem scan_doubled {brace : Char} (is_brace : brace = '\x7b' ∨ brace = '\x7d')
    (rest : List Char) :
    scan .outside (brace :: brace :: rest) = precede (.literal brace) (scan .outside rest) := by
  rcases is_brace with rfl | rfl <;> simp [scan]

theorem scan_own {character : Char} (opening : character ≠ '\x7b')
    (closing : character ≠ '\x7d') (rest : List Char) :
    scan .outside (character :: rest) = precede (.literal character) (scan .outside rest) := by
  rw [scan.eq_def]
  simp only [opening, closing, if_false]

theorem scan_emptyField (rest : List Char) :
    scan .outside ('\x7b' :: '\x7d' :: rest) =
      precede (.field ⟨[], none, []⟩) (scan .outside rest) := by
  rw [scan, scan]
  simp

/-- The template of a fragment is scanned as its characters, or as one empty field. -/
theorem scan_fragment (fragment : Fragment) (rest : List Char) :
    scan .outside (fragment.template.toList ++ rest) =
      (fragmentPieces fragment ++ (scan .outside rest).1, (scan .outside rest).2) := by
  cases fragment with
  | marked text =>
      have template : (Fragment.marked text).template.toList = ['\x7b', '\x7d'] := by
        simp [Fragment.template]
      rw [template]
      exact scan_emptyField rest
  | plain text =>
      rw [Fragment.template, String.toList_ofList, fragmentPieces]
      induction text.toList with
      | nil => rfl
      | cons character text ih =>
          rw [List.flatMap_cons, List.map_cons, List.append_assoc]
          by_cases brace : character = '\x7b' ∨ character = '\x7d'
          · rw [if_pos (by simpa using brace)]
            exact (scan_doubled brace _).trans (congrArg (precede _) ih)
          · rw [not_or] at brace
            rw [if_neg (by simp [brace.1, brace.2])]
            exact (scan_own brace.1 brace.2 _).trans (congrArg (precede _) ih)

/-- The template of a message is scanned without a fault. -/
theorem scan_message (message : Message) :
    scan .outside message.template.toList = (message.flatMap fragmentPieces, none) := by
  rw [Message.template, String.toList_join]
  induction message with
  | nil => rfl
  | cons fragment message ih =>
      rw [List.map_cons, List.flatMap_cons, scan_fragment, ih]
      rfl

theorem isPlain_message (message : Message) : IsPlain message.template := by
  intro field member
  rw [scan_message] at member
  obtain ⟨fragment, -, member⟩ := List.mem_flatMap.mp member
  cases fragment with
  | plain text => simp [fragmentPieces] at member
  | marked text =>
      cases List.mem_singleton.mp member
      exact ⟨by simp, rfl, rfl⟩

/-- The parts of a message whose quotations are the arguments from a number on. -/
def messageParts (first : Nat) : Message → List Part
  | [] => []
  | .plain text :: rest => text.toList.map .own ++ messageParts first rest
  | .marked _ :: rest => .argument first :: messageParts (first + 1) rest

theorem arrange_literals (count : Nat) (numbering : Numbering) (characters : List Char)
    (pieces : List Piece) :
    arrange count numbering (characters.map .literal ++ pieces) =
      (arrange count numbering pieces).map (characters.map .own ++ ·) := by
  induction characters with
  | nil =>
      rw [List.map_nil, List.nil_append]
      cases arrange count numbering pieces <;> rfl
  | cons character characters ih =>
      rw [List.map_cons, List.cons_append, arrange, ih]
      cases arrange count numbering pieces <;> rfl

theorem arrange_message {message : Message} {count first : Nat} {numbering : Numbering}
    (next : resolve numbering [] = .ok (first, .automatic (first + 1)))
    (enough : first + message.quotations.length ≤ count) :
    arrange count numbering (message.flatMap fragmentPieces) =
      .ok (messageParts first message) := by
  induction message generalizing first numbering with
  | nil => rfl
  | cons fragment message ih =>
      cases fragment with
      | plain text =>
          rw [List.flatMap_cons, fragmentPieces, arrange_literals, ih next enough]
          rfl
      | marked text =>
          have enough : first + ((Message.quotations message).length + 1) ≤ count := enough
          have later := @ih (first + 1) (.automatic (first + 1)) rfl (by omega)
          rw [List.flatMap_cons, fragmentPieces, List.singleton_append, arrange, next]
          simp only [later]
          rw [if_pos (by omega)]
          rfl

theorem compose_own (arguments : List String) (text : String) (parts : List Part) :
    compose arguments (text.toList.map .own ++ parts) = text ++ compose arguments parts := by
  apply String.toList_inj.mp
  simp [compose, String.toList_join, List.flatMap_map, Part.text]

theorem compose_message (style : String → String) {message : Message} {first : Nat}
    {arguments : List String} (given : arguments.drop first = message.quotations.map style) :
    compose arguments (messageParts first message) = message.styled style := by
  induction message generalizing first with
  | nil => rfl
  | cons fragment message ih =>
      cases fragment with
      | plain text =>
          rw [messageParts, compose_own, ih given, Message.styled_cons]
          rfl
      | marked text =>
          have head : arguments.drop first = style text :: (Message.quotations message).map style :=
            given
          have argument : arguments.getD first "" = style text := by
            have item := congrArg (·[0]?) head
            simp only [List.getElem?_drop, Nat.add_zero, List.getElem?_cons_zero] at item
            rw [List.getD_eq_getElem?_getD, item, Option.getD_some]
          have later : arguments.drop (first + 1) = (Message.quotations message).map style := by
            rw [← List.tail_drop, head, List.tail_cons]
          rw [messageParts, compose_cons, ih later, Message.styled_cons]
          exact congrArg (· ++ _) argument

/-- The template of a message, filled with its quotations in some style. -/
theorem format_message (room : Nat) (style : String → String) (message : Message) :
    format room message.template (message.quotations.map style) = .ok (message.styled style) := by
  have next : resolve .undecided [] = .ok (0, .automatic (0 + 1)) := rfl
  have enough : 0 + message.quotations.length ≤ (message.quotations.map style).length := by simp
  have arranged : arrangement message.template (message.quotations.map style).length =
      .ok (messageParts 0 message) := by
    simp only [arrangement, scan_message, arrange_message next enough]
  rw [format_eq_arrangement room (isPlain_message message), arranged]
  exact congrArg Except.ok (compose_message style rfl)

end Template

namespace Notice

/-- A message is what its template gives when it is filled with the quotations. -/
theorem ofTemplate_message (platform : Platform) (message : Message) :
    ofTemplate message.template message.quotations platform = .ok (ofMessage message) := by
  have filled := Template.format_message platform.room id message
  rw [List.map_id, message.styled_id] at filled
  rw [ofTemplate, filled]
  rfl

/-- A message is shown with its quotations in bold. -/
theorem shown_ofMessage (message : Message) (color : Bool) (platform : Platform) :
    (ofMessage message).shown color platform = .ok (message.styled (platform.bold color)) :=
  Template.format_message platform.room (platform.bold color) message

/-- A notice that is passed on is shown as before. -/
theorem shown_passedOn (notice : Notice) (color : Bool) (platform : Platform) :
    notice.passedOn.shown color platform = notice.shown color platform := rfl

/-- The arguments of a template are never interpreted, on whatever platform that sets texts in bold
with sequences on either side of them.  Take a template whose fields ask for arguments as they are,
well-formed or not.  Whether a notice can be made of it, and what is wrong otherwise, depends on the
number of arguments only.  If it can, then it can be shown with and without colour, also when it is
passed on; without colour what is shown is the text of the notice, and with colour it is that text
but for the sequences that turn bold on and off, as long as the template and the arguments hold no
escape character.  Messages are made from templates of this kind. -/
theorem arguments_uninterpreted {platform : Platform} (bolds : platform.SetsBold) :
    (∀ template : String, Template.IsPlain template →
      (∀ arguments arguments' : List String, arguments.length = arguments'.length →
        (ofTemplate template arguments platform).map (fun _ => ()) =
          (ofTemplate template arguments' platform).map (fun _ => ())) ∧
      ∀ (arguments : List String) (notice : Notice),
        ofTemplate template arguments platform = .ok notice →
        ∀ color : Bool, ∃ shown : String,
          Template.format platform.room template (arguments.map (platform.bold color)) =
            .ok shown ∧
          notice.shown color platform = .ok shown ∧
          notice.passedOn.shown color platform = .ok shown ∧
          (color = false → shown = notice.text) ∧
          (Text.escape ∉ template.toList →
            (∀ argument ∈ arguments, Text.escape ∉ argument.toList) →
              Text.unstyled shown.toList = notice.text.toList)) ∧
    ∀ message : Message, Template.IsPlain message.template ∧
      ofTemplate message.template message.quotations platform = .ok (ofMessage message) := by
  refine ⟨fun template plain => ⟨fun arguments arguments' same => ?_,
    fun arguments notice made color => ?_⟩,
    fun message => ⟨Template.isPlain_message message, ofTemplate_message platform message⟩⟩
  · simp only [ofTemplate, Template.format_eq_arrangement _ plain, same]
    cases Template.arrangement template arguments'.length <;> rfl
  · obtain ⟨text, filled, rfl⟩ := Template.exists_of_map_eq_ok made
    obtain ⟨shown, filled_bold, uncolored, unstyled⟩ :=
      Template.format_bold bolds plain filled color
    exact ⟨shown, filled_bold, filled_bold, filled_bold, uncolored, unstyled⟩

/-- A template with a doubled brace of each kind and two fields is filled with a position and a
lone brace, which is shown in bold. -/
theorem arguments_uninterpreted_brace :
    let template := "\x7b\x7b\x7d\x7d \x7b\x7d: '\x7b\x7d'"
    let arguments := ["1:2", "\x7b"]
    Platform.ordinary.SetsBold ∧ Template.IsPlain template ∧
      ∃ notice shown, ofTemplate template arguments .ordinary = .ok notice ∧
        notice.text = "\x7b\x7d 1:2: '\x7b'" ∧ notice.shown true .ordinary = .ok shown ∧
        Text.unstyled shown.toList = notice.text.toList := by
  intro template arguments
  let message : Message :=
    [.plain "\x7b\x7d ", .marked "1:2", .plain ": '", .marked "\x7b", .plain "'"]
  have written : message.template = template := by decide
  have plain : Template.IsPlain template := written ▸ Template.isPlain_message message
  have made : ofTemplate template arguments .ordinary = .ok (ofMessage message) :=
    written ▸ ofTemplate_message .ordinary message
  obtain ⟨shown, -, is_shown, -, -, unstyled⟩ :=
    ((arguments_uninterpreted Platform.ordinary_setsBold).1 template plain).2 arguments _ made true
  exact ⟨Platform.ordinary_setsBold, plain, _, shown, made, by decide, is_shown,
    unstyled (by decide) (by decide)⟩

end Notice
end DynLisp
