import NumberFeed.Proofs.Template.Places
import NumberFeed.Proofs.Value.ShownNumbers

/-!
# The messages of preconditions

A precondition that does not hold tells the message that was given for it. Most messages are
templates of texts, and come with one argument for each place; then the texts are told with those of
the arguments between them, whatever characters are in either and whatever the arguments are. Such a
message cannot be put together if there are more or fewer arguments than places, or if an argument
in a place has no text. Without arguments a message is no template. `Check.MessageLaw` says so of
anything that fails with a message and arguments, and `Check.precondition_law` that both kinds of
preconditions do when they do not hold, and that they are silent when they hold.
-/

namespace NumberFeed

/-! ## The texts of several values -/

/-- The texts of values tell the numbers of all of them. -/
theorem Value.tells_mapM_shown (values : List Value) :
    Tells (values.flatMap shownNumbers) (values.mapM shown) := by
  induction values with
  | nil => exact Tells.pure []
  | cons value values ih =>
    have hboth : Tells (value.shownNumbers ++ (values.flatMap shownNumbers ++ []))
        (value.shown >>= fun first => values.mapM shown >>= fun others => pure (first :: others)) :=
      (tells_asText false value).bind fun _ => ih.bind fun _ => Tells.pure _
    rwa [List.append_nil, ← List.flatMap_cons, ← List.mapM_cons] at hboth

/-- Values that all have a text have texts together. -/
theorem Value.exists_mapM_shown {values : List Value} (h : ∀ value ∈ values, value.Tellable) :
    ∃ shown, values.mapM Value.shown = .ok shown := by
  refine (tells_mapM_shown values).ok fun n hn => ?_
  obtain ⟨value, hvalue, hnumber⟩ := List.mem_flatMap.mp hn
  exact h value hvalue n hnumber

/-- If one of several values has no text, a number in it is too long to be written. -/
theorem Value.mapM_shown_of_not_tellable {values : List Value} {value : Value}
    (hvalue : value ∈ values) (h : ¬ value.Tellable) :
    values.mapM Value.shown = .error .tooManyDigits := by
  obtain ⟨n, hnumber, hlong⟩ := exists_of_not_tellable h
  exact (tells_mapM_shown values).long n (List.mem_flatMap.mpr ⟨value, hvalue, hnumber⟩) hlong

namespace Check

open Template

/-! ## The law -/

/-- What comes of a message and its arguments where something fails with them. -/
structure MessageLaw {α : Type} (fails : Value → List Value → Except Failure α) : Prop where
  /-- With as many arguments as a template has places, each with a text, it fails with an illegal
  argument, and the message has the texts of the arguments between those of the template. -/
  told : ∀ (text : String) (texts : List String) (args : List Value), args ≠ [] →
    args.length = texts.length → (∀ arg ∈ args, arg.Tellable) →
    ∃ shown, args.mapM Value.shown = .ok shown ∧ fails (.text (ofTexts (text :: texts))) args =
      .error (.refused (.stated (interleave (text :: texts) shown)))
  /-- With any other number of arguments it fails with a wrong type, if those in places have texts.
  The arguments beyond the places need none. -/
  miscounted : ∀ (text : String) (texts : List String) (args : List Value), args ≠ [] →
    args.length ≠ texts.length → (∀ arg ∈ args.take texts.length, arg.Tellable) →
    fails (.text (ofTexts (text :: texts))) args = .error .wrongType
  /-- If an argument in a place has no text, this is the failure, however many there are. -/
  untold : ∀ (text : String) (texts : List String) (args : List Value),
    (∃ arg ∈ args.take texts.length, ¬ arg.Tellable) →
    fails (.text (ofTexts (text :: texts))) args = .error .tooManyDigits
  /-- Without arguments the message is told as it is, whatever is in it. -/
  verbatim : ∀ message : String, fails (.text message) [] = .error (.refused (.stated message))

/-- What preconditions come to. -/
structure PreconditionLaw : Prop where
  /-- A condition that counts as false fails with the message. -/
  broken : ∀ condition : Value, condition.isTrue = false → MessageLaw (argument condition)
  /-- So does an absent value. -/
  missing : ∀ value : Value, value.isNull = true → MessageLaw (notNull value)
  /-- A condition that counts as true is let through, whatever the message and its arguments are,
  and even if they make none. -/
  holds : ∀ condition template : Value, ∀ args : List Value, condition.isTrue = true →
    argument condition template args = .ok ()
  /-- So is a value that is there, and it is given back. -/
  present : ∀ value template : Value, ∀ args : List Value, value.isNull = false →
    notNull value template args = .ok value

/-- A refusal tells its message as said. -/
theorem messageLaw_refuse (α : Type) : MessageLaw (refuse (α := α)) where
  told text texts args hargs hcount htellable := by
    obtain ⟨shown, hshown⟩ := Value.exists_mapM_shown htellable
    refine ⟨shown, hshown, ?_⟩
    rw [refuse_ofTexts text texts hargs, ← hcount, List.take_length, hshown]
    show Except.error (if args.length = args.length then _ else _) = _
    rw [if_pos rfl]
  miscounted text texts args hargs hcount htellable := by
    -- With too many arguments these are the texts of the first ones, with too few those of all.
    obtain ⟨shown, hshown⟩ := Value.exists_mapM_shown htellable
    rw [refuse_ofTexts text texts hargs, hshown]
    show Except.error (if args.length = texts.length then _ else _) = _
    rw [if_neg hcount]
  untold text texts args hlong := by
    obtain ⟨arg, harg, hlong⟩ := hlong
    have hargs : args ≠ [] := List.ne_nil_of_mem (List.mem_of_mem_take harg)
    rw [refuse_ofTexts text texts hargs, Value.mapM_shown_of_not_tellable harg hlong]
    rfl
  verbatim message := rfl

/-- A template in bytes makes a message in bytes: the exception is raised with it, and reports an
illegal argument like any other, but it has no text. -/
theorem exception_bytes {template bytes : List UInt8} {args : List Value} (hargs : args ≠ [])
    (h : formatBytes template args = .ok bytes) :
    exception (.bytes template) args = .ok ⟨true, .bytes bytes⟩ ∧
      Exception.text ⟨true, .bytes bytes⟩ = .error .wrongType := by
  have hmessage : message (.bytes template) args = (formatBytes template args).map .bytes := by
    cases args with
    | nil => exact absurd rfl hargs
    | cons arg args => rfl
  exact ⟨by rw [exception, hmessage, h]; rfl, rfl⟩

/-- Preconditions fail with their messages as said, and only if they do not hold. -/
theorem precondition_law : PreconditionLaw where
  broken condition hfalse := by
    have hrefuse : argument condition = refuse := by
      funext template args
      rw [argument, hfalse, if_neg Bool.false_ne_true]
    rw [hrefuse]
    exact messageLaw_refuse Unit
  missing value hnull := by
    have hrefuse : notNull value = refuse := by
      funext template args
      rw [notNull, hnull, if_pos rfl]
    rw [hrefuse]
    exact messageLaw_refuse Value
  holds condition template args htrue := by
    rw [argument, htrue, if_pos rfl]
  present value template args hthere := by
    rw [notNull, hthere, if_neg Bool.false_ne_true]

/-- A percent sign within an argument opens no directive, and a pair is one argument. -/
theorem precondition_law_percent_and_pair :
    (Value.bool false).isTrue = false ∧
      (∀ arg ∈ [Value.text "5%s", .tuple [.int 1, .int 2]], arg.Tellable) ∧
      argument (.bool false) (.text "100%% of %s: %s") [.text "5%s", .tuple [.int 1, .int 2]] =
        .error (.refused (.stated "100% of 5%s: (1, 2)")) := by
  have htellable : ∀ arg ∈ [Value.text "5%s", .tuple [.int 1, .int 2]], arg.Tellable := by decide
  obtain ⟨shown, hshown, hfails⟩ := (precondition_law.broken (.bool false) rfl).told
    "100% of " [": ", ""] _ (List.cons_ne_nil _ _) rfl htellable
  have htexts : ["5%s", "(1, 2)"] = shown := Except.ok.inj hshown
  subst htexts
  exact ⟨rfl, htellable, hfails⟩

end Check

end NumberFeed
