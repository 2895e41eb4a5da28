import Mathlib.Data.List.Basic
import NumberFeed.Check

/-!
# Templates with places between texts

A template is mostly made of texts that stand for themselves, with a place for an argument between
each two of them. `ofTexts` writes such a template. The percent signs of the texts are written twice
(`escape`), so that the places are its only directives, and the template makes of a text the text
itself (`format_escape`). A place shows one argument, whatever that is, and goes on with the others;
what the argument contributes is not read again (`format_place`). So by induction on the texts the
template takes one argument for each place, and makes the texts with those of the arguments between
them (`format_ofTexts`). This is what a precondition with such a message tells when it does not hold
(`Check.refuse_ofTexts`).
-/

namespace NumberFeed

namespace Template

/-- A character of a text as it is written in a template: a percent sign twice. -/
def doubled (c : Char) : List Char := if c = '%' then ['%', '%'] else [c]

/-- A text as it is written in a template. -/
def escape (text : String) : String := String.ofList (text.toList.flatMap doubled)

/-- The template of texts with a place between each two of them. -/
def ofTexts (texts : List String) : String := String.intercalate "%s" (texts.map escape)

/-- Texts with others between them, one after each as long as there are others. -/
def interleave : List String → List String → String
  | text :: texts, shown :: others => text ++ (shown ++ interleave texts others)
  | text :: _, [] => text
  | [], _ => ""

/-! ## Texts and places one after the other -/

/-- A character that is written in a template is a piece of its own. -/
theorem pieces_doubled (c : Char) (rest : List Char) :
    pieces (doubled c ++ rest) = .char c :: pieces rest := by
  unfold doubled
  by_cases hc : c = '%'
  · rw [if_pos hc, hc]
    exact pieces_percent rest
  · rw [if_neg hc, List.singleton_append]
    unfold pieces
    rw [piecesFrom, if_neg hc]

/-- The characters of a text go before what the rest of the template makes. -/
theorem fill_doubled (convert : Conversion) (chars rest : List Char) (args : List Value) :
    fill convert (pieces (chars.flatMap doubled ++ rest)) args =
      (fill convert (pieces rest) args).map (chars ++ ·) := by
  induction chars with
  | nil =>
    rw [List.flatMap_nil, List.nil_append]
    cases fill convert (pieces rest) args <;> rfl
  | cons c chars ih =>
    rw [List.flatMap_cons, List.append_assoc, pieces_doubled, fill, ih]
    cases fill convert (pieces rest) args <;> rfl

/-- A text that is written in a template goes before what the rest of the template makes. -/
theorem format_escape (text rest : String) (args : List Value) :
    format (escape text ++ rest) args = (format rest args).map (text ++ ·) := by
  rw [format, escape, String.toList_append, String.toList_ofList, fill_doubled, format]
  cases fill Field.ofValue (pieces rest.toList) args with
  | error cause => rfl
  | ok chars =>
    show Except.ok (String.ofList (text.toList ++ chars)) = Except.ok (text ++ String.ofList chars)
    rw [String.ofList_append, String.ofList_toList]

/-- A place takes the next argument, and the text of that goes before what the rest makes. -/
theorem format_place (rest : String) (arg : Value) (args : List Value) :
    format ("%s" ++ rest) (arg :: args) =
      arg.shown >>= fun shown => (format rest args).map (shown ++ ·) := by
  have hpieces : pieces ("%s" ++ rest).toList =
      .directive .plain (some 's') :: pieces rest.toList := by
    rw [String.toList_append]
    exact pieces_shown rest.toList
  rw [format, hpieces, fill, place_shown, format]
  cases arg.shown with
  | error cause => rfl
  | ok shown =>
    show ((fill Field.ofValue (pieces rest.toList) args >>= fun others =>
      pure (shown.toList ++ others)).map String.ofList) = _
    cases fill Field.ofValue (pieces rest.toList) args with
    | error cause => rfl
    | ok chars =>
      show Except.ok (String.ofList (shown.toList ++ chars)) =
        Except.ok (shown ++ String.ofList chars)
      rw [String.ofList_append, String.ofList_toList]

/-- A place for which no argument is left is a failure. -/
theorem format_place_nil (rest : String) : format ("%s" ++ rest) [] = .error .wrongType := by
  rw [format, String.toList_append]
  rfl

/-- Arguments for which no place is left are a failure. -/
theorem format_empty (args : List Value) :
    format "" args = if args.length = 0 then .ok "" else .error .wrongType := by
  cases args <;> rfl

/-! ## Whole templates -/

/-- A text without percent signs is written in a template as it is. -/
theorem escape_of_not_mem {text : String} (h : '%' ∉ text.toList) : escape text = text := by
  have hdoubled : ∀ c ∈ text.toList, doubled c = [c] := by
    intro c hc
    have hne : c ≠ '%' := ne_of_mem_of_not_mem hc h
    rw [doubled, if_neg hne]
  rw [escape, List.flatMap_congr hdoubled, List.flatMap_singleton', String.ofList_toList]

/-- The template of a single text. -/
theorem ofTexts_singleton (text : String) : ofTexts [text] = escape text :=
  String.intercalate_singleton

/-- The first text of a template has a place behind it if there is another text. -/
theorem ofTexts_cons_cons (text next : String) (texts : List String) :
    ofTexts (text :: next :: texts) = escape text ++ ("%s" ++ ofTexts (next :: texts)) := by
  rw [ofTexts, List.map_cons, List.map_cons, String.intercalate_cons_cons, String.append_assoc]
  rfl

/-- A template of texts makes these texts with those of the arguments between them, if there are as
many arguments as places. The arguments in the places are shown before they are counted. -/
theorem format_ofTexts (text : String) (texts : List String) (args : List Value) :
    format (ofTexts (text :: texts)) args =
      (args.take texts.length).mapM Value.shown >>= fun shown =>
        if args.length = texts.length then .ok (interleave (text :: texts) shown)
        else .error .wrongType := by
  -- Each text but the last has a place behind it, which takes the next argument.
  induction texts generalizing text args with
  | nil =>
    have htemplate : ofTexts [text] = escape text ++ "" := by
      rw [ofTexts_singleton, String.append_empty]
    rw [htemplate, format_escape, format_empty]
    cases args with
    | nil => exact congrArg Except.ok String.append_empty
    | cons arg args => rfl
  | cons next texts ih =>
    rw [ofTexts_cons_cons, format_escape]
    cases args with
    | nil =>
      rw [format_place_nil]
      rfl
    | cons arg args =>
      rw [format_place, ih, List.length_cons, List.take_succ_cons, List.mapM_cons]
      simp only [List.length_cons, Nat.add_right_cancel_iff]
      cases arg.shown with
      | error cause => rfl
      | ok shown =>
        cases (args.take texts.length).mapM Value.shown with
        | error cause => rfl
        | ok others =>
          show ((if _ then _ else _ : Except Failure String).map _).map _ = if _ then _ else _
          split <;> rfl

/-- The percent signs of the texts stay, and that of the argument is not read. -/
example : ofTexts ["100% of ", ""] = "100%% of %s" ∧
    format "100%% of %s" [.text "5%s"] = .ok "100% of 5%s" := by
  decide

end Template

open Template

/-- A refusal with a template of texts tells the message that the template makes of its arguments.
With more or fewer arguments than places there is none. -/
theorem Check.refuse_ofTexts {α : Type} (text : String) (texts : List String) {args : List Value}
    (hargs : args ≠ []) : refuse (α := α) (.text (ofTexts (text :: texts))) args =
      (args.take texts.length).mapM Value.shown >>= fun shown =>
        .error (if args.length = texts.length then
          .refused (.stated (interleave (text :: texts) shown)) else .wrongType) := by
  have hmessage : message (.text (ofTexts (text :: texts))) args =
      (format (ofTexts (text :: texts)) args).map .text := by
    cases args with
    | nil => exact absurd rfl hargs
    | cons arg args => rfl
  have hrefuse : refuse (α := α) (.text (ofTexts (text :: texts))) args =
      format (ofTexts (text :: texts)) args >>= fun text => .error (.refused (.stated text)) := by
    rw [refuse, exception, hmessage]
    cases format (ofTexts (text :: texts)) args <;> rfl
  rw [hrefuse, format_ofTexts]
  cases (args.take texts.length).mapM Value.shown with
  | error cause => rfl
  | ok shown =>
    show ((if _ then _ else _ : Except Failure String) >>= _) = Except.error (if _ then _ else _)
    split <;> rfl

end NumberFeed
