import Provenance.CommandLine.FailureReport
import Provenance.Proofs.Steps
import Provenance.Proofs.Text.Digits
import Mathlib.Data.List.Forall2

/-!
How the texts of a diagnostic come about. Here this is told from the templates as they are written:
a place is a name in braces, and all places are filled at the same time (`Filled`), which can be
done in one way only. The message, and each hint on its own, is its template filled with the values
of the context, or the template as it is if a name is missing (`Diagnostic.texts_render`). Nothing
else can go wrong with a template, as none has a brace outside of a place. What can go wrong is a
value of the message that cannot be shown (`Spoiled`): then there is no diagnostic. A diagnostic
that is there never fails to tell its message and its hints.
-/
namespace Provenance

/-! ## Templates as they are written -/

/-- A name that a place may have. -/
def IsPlaceName (name : List Char) : Prop :=
  name ≠ [] ∧ ∀ c ∈ name, c.isAlpha = true ∨ c = '_'

instance (name : List Char) : Decidable (IsPlaceName name) :=
  have := List.decidableBAll (fun c => c.isAlpha = true ∨ c = '_') name
  instDecidableAnd

/-- There is a place for a name in a template. -/
def HasPlace (written : List Char) (name : String) : Prop :=
  IsPlaceName name.toList ∧
    ∃ before after, written = before ++ '\x7b' :: (name.toList ++ '\x7d' :: after)

/-- A template with its places filled. Each place gives way to the value of its name, in which
nothing is looked for; all else stays. There is no way to read a brace that belongs to no place. -/
inductive Filled (value : String → Except Raised String) : List Char → List Char → Prop
  | done : Filled value [] []
  | letter {c : Char} {written out : List Char} (opens : c ≠ '\x7b') (closes : c ≠ '\x7d')
      (rest : Filled value written out) : Filled value (c :: written) (c :: out)
  | place {name shown : String} {written out : List Char} (named : IsPlaceName name.toList)
      (known : value name = .ok shown) (rest : Filled value written out) :
      Filled value ('\x7b' :: (name.toList ++ '\x7d' :: written)) (shown.toList ++ out)

/-- Filling the places of a template from the left comes to one whose value raises an error. -/
inductive Spoiled (value : String → Except Raised String) (e : Raised) : List Char → Prop
  | letter {c : Char} {written : List Char} (opens : c ≠ '\x7b') (closes : c ≠ '\x7d')
      (rest : Spoiled value e written) : Spoiled value e (c :: written)
  | place {name shown : String} {written : List Char} (named : IsPlaceName name.toList)
      (known : value name = .ok shown) (rest : Spoiled value e written) :
      Spoiled value e ('\x7b' :: (name.toList ++ '\x7d' :: written))
  | here {name : String} {written : List Char} (named : IsPlaceName name.toList)
      (raised : value name = .error e) :
      Spoiled value e ('\x7b' :: (name.toList ++ '\x7d' :: written))

theorem IsPlaceName.opens_notMem {name : List Char} (named : IsPlaceName name) :
    '\x7b' ∉ name := by
  intro member
  rcases named.2 _ member with letter | same
  · exact absurd letter (by decide)
  · exact absurd same (by decide)

theorem IsPlaceName.closes_notMem {name : List Char} (named : IsPlaceName name) :
    '\x7d' ∉ name := by
  intro member
  rcases named.2 _ member with letter | same
  · exact absurd letter (by decide)
  · exact absurd same (by decide)

/-- The name of a place ends at the first closing brace. -/
theorem place_inj {name name' : String} {rest rest' : List Char} (named : IsPlaceName name.toList)
    (named' : IsPlaceName name'.toList)
    (same : name.toList ++ '\x7d' :: rest = name'.toList ++ '\x7d' :: rest') :
    name = name' ∧ rest = rest' := by
  have ends {name : List Char} (named : IsPlaceName name) (rest : List Char) :
      (name ++ '\x7d' :: rest).takeWhile (· ≠ '\x7d') = name := by
    rw [List.takeWhile_append_of_pos, List.takeWhile_cons_of_neg (by decide), List.append_nil]
    exact fun c member => decide_eq_true fun same => named.closes_notMem (same ▸ member)
  have names : name.toList = name'.toList := by rw [← ends named rest, same, ends named' rest']
  rw [names] at same
  exact ⟨String.toList_inj.mp names, (List.cons.inj (List.append_cancel_left same)).2⟩

/-- A template is filled in one way only. -/
theorem Filled.unique {value : String → Except Raised String} {written out out' : List Char}
    (filled : Filled value written out) (filled' : Filled value written out') : out = out' := by
  induction filled generalizing out' with
  | done =>
    cases filled'
    rfl
  | letter opens _ _ ih =>
    cases filled' with
    | letter _ _ rest => rw [ih rest]
    | place => exact absurd rfl opens
  | @place name shown written out named known _ ih =>
    generalize whole : '\x7b' :: (name.toList ++ '\x7d' :: written) = all at filled'
    cases filled' with
    | done => cases whole
    | letter opens => exact absurd (List.cons.inj whole).1.symm opens
    | place named' known' rest =>
      obtain ⟨rfl, rfl⟩ := place_inj named named' (List.cons.inj whole).2
      rw [Except.ok.inj (known.symm.trans known'), ih rest]

/-- A template that can be filled has places for known names alone. -/
theorem Filled.known_of_hasPlace {value : String → Except Raised String}
    {written out : List Char} (filled : Filled value written out) {name : String}
    (place : HasPlace written name) : ∃ shown, value name = .ok shown := by
  induction filled with
  | done =>
    obtain ⟨-, before, after, whole⟩ := place
    simp at whole
  | letter opens _ _ ih =>
    obtain ⟨named, before, after, whole⟩ := place
    cases before with
    | nil => exact absurd (List.cons.inj whole).1 opens
    | cons _ before => exact ih ⟨named, before, after, (List.cons.inj whole).2⟩
  | @place other shown written out named' known _ ih =>
    obtain ⟨named, before, after, whole⟩ := place
    cases before with
    | nil =>
      obtain ⟨rfl, -⟩ := place_inj named' named (List.cons.inj whole).2
      exact ⟨_, known⟩
    | cons _ before =>
      -- The place begins behind this one, as there is no brace within the name of this one.
      rcases List.append_eq_append_iff.mp (List.cons.inj whole).2 with
        ⟨_ | ⟨_, between⟩, -, behind⟩ | ⟨_ | ⟨_, within⟩, inside, behind⟩
      · exact absurd (List.cons.inj behind).1 (by decide)
      · exact ih ⟨named, between, after, (List.cons.inj behind).2⟩
      · exact absurd (List.cons.inj behind).1 (by decide)
      · refine absurd ?_ named'.opens_notMem
        rw [inside, (List.cons.inj behind).1]
        simp

theorem Spoiled.raised {value : String → Except Raised String} {e : Raised} {written : List Char}
    (spoiled : Spoiled value e written) : ∃ name, value name = .error e := by
  induction spoiled with
  | letter _ _ _ ih => exact ih
  | place _ _ _ ih => exact ih
  | here _ raised => exact ⟨_, raised⟩

/-- Where an error stands in the way of filling a template, the template cannot be filled, and no
other error comes first. -/
theorem Spoiled.only {value : String → Except Raised String} {e : Raised} {written : List Char}
    (spoiled : Spoiled value e written) :
    (∀ out, ¬Filled value written out) ∧ ∀ other, Spoiled value other written → other = e := by
  induction spoiled with
  | letter opens _ _ ih =>
    refine ⟨fun out filled => ?_, fun other spoiled => ?_⟩
    · cases filled with
      | letter _ _ rest => exact ih.1 _ rest
      | place => exact absurd rfl opens
    · cases spoiled with
      | letter _ _ rest => exact ih.2 _ rest
      | place => exact absurd rfl opens
      | here => exact absurd rfl opens
  | @place name shown written named known _ ih =>
    generalize whole : '\x7b' :: (name.toList ++ '\x7d' :: written) = all
    refine ⟨fun out filled => ?_, fun other spoiled => ?_⟩
    · cases filled with
      | done => cases whole
      | letter opens => exact absurd (List.cons.inj whole).1.symm opens
      | place named' _ rest =>
        obtain ⟨rfl, rfl⟩ := place_inj named named' (List.cons.inj whole).2
        exact ih.1 _ rest
    · cases spoiled with
      | letter opens => exact absurd (List.cons.inj whole).1.symm opens
      | place named' _ rest =>
        obtain ⟨rfl, rfl⟩ := place_inj named named' (List.cons.inj whole).2
        exact ih.2 _ rest
      | here named' raised =>
        obtain ⟨rfl, -⟩ := place_inj named named' (List.cons.inj whole).2
        cases known.symm.trans raised
  | @here name written named raised =>
    generalize whole : '\x7b' :: (name.toList ++ '\x7d' :: written) = all
    refine ⟨fun out filled => ?_, fun other spoiled => ?_⟩
    · cases filled with
      | done => cases whole
      | letter opens => exact absurd (List.cons.inj whole).1.symm opens
      | place named' known _ =>
        obtain ⟨rfl, -⟩ := place_inj named named' (List.cons.inj whole).2
        cases known.symm.trans raised
    · cases spoiled with
      | letter opens => exact absurd (List.cons.inj whole).1.symm opens
      | place named' known _ =>
        obtain ⟨rfl, -⟩ := place_inj named named' (List.cons.inj whole).2
        cases known.symm.trans raised
      | here named' raised' =>
        obtain ⟨rfl, -⟩ := place_inj named named' (List.cons.inj whole).2
        exact Except.error.inj (raised'.symm.trans raised)

/-! ## Templates made of pieces -/

/-- What a context tells in the place of a name: the text of the value, or an error. -/
def Context.told (context : Context) (name : String) : Except Raised String :=
  Template.pieceIn context (.place name)

/-- A piece stands for itself where it is written: there are no braces but those of places. -/
def Piece.Plain : Piece → Prop
  | .words s => ∀ c ∈ s.toList, c ≠ '\x7b' ∧ c ≠ '\x7d'
  | .place name => IsPlaceName name.toList

instance : (piece : Piece) → Decidable piece.Plain
  | .words s => List.decidableBAll (fun c => c ≠ '\x7b' ∧ c ≠ '\x7d') s.toList
  | .place name => inferInstanceAs (Decidable (IsPlaceName name.toList))

namespace Template

variable {template : Template}

theorem toList_text_cons (piece : Piece) (template : Template) :
    (text (piece :: template)).toList = (pieceText piece).toList ++ template.text.toList := by
  rw [text, text, List.map_cons, String.join_cons, String.toList_append]

/-- A place of a template is seen where the template is written. -/
theorem hasPlace_text (plain : ∀ piece ∈ template, piece.Plain) {name : String}
    (there : .place name ∈ template) : HasPlace template.text.toList name := by
  refine ⟨plain _ there, ?_⟩
  obtain ⟨before, after, rfl⟩ := List.append_of_mem there
  refine ⟨(text before).toList, (text after).toList, ?_⟩
  simp [text, pieceText, String.toList_join]

theorem filled_append {value : String → Except Raised String} {words written out : List Char}
    (plain : ∀ c ∈ words, c ≠ '\x7b' ∧ c ≠ '\x7d') (rest : Filled value written out) :
    Filled value (words ++ written) (words ++ out) := by
  induction words with
  | nil => exact rest
  | cons c words ih =>
    obtain ⟨⟨opens, closes⟩, plain⟩ := List.forall_mem_cons.mp plain
    exact .letter opens closes (ih plain)

theorem spoiled_append {value : String → Except Raised String} {e : Raised}
    {words written : List Char} (plain : ∀ c ∈ words, c ≠ '\x7b' ∧ c ≠ '\x7d')
    (rest : Spoiled value e written) : Spoiled value e (words ++ written) := by
  induction words with
  | nil => exact rest
  | cons c words ih =>
    obtain ⟨⟨opens, closes⟩, plain⟩ := List.forall_mem_cons.mp plain
    exact .letter opens closes (ih plain)

/-- A template whose pieces all come out is filled with them. -/
theorem filled_of_mapM (plain : ∀ piece ∈ template, piece.Plain) {context : Context}
    {pieces : List String} (whole : template.mapM (pieceIn context) = .ok pieces) :
    Filled context.told template.text.toList (String.join pieces).toList := by
  induction template generalizing pieces with
  | nil =>
    cases whole
    exact .done
  | cons piece template ih =>
    obtain ⟨first, rest⟩ := List.forall_mem_cons.mp plain
    rw [List.mapM_cons] at whole
    obtain ⟨shown, known, later⟩ := bind_eq_ok_iff.mp whole
    obtain ⟨others, made, same⟩ := bind_eq_ok_iff.mp later
    cases same
    rw [toList_text_cons, String.join_cons, String.toList_append]
    cases piece with
    | words s =>
      cases known
      exact filled_append first (ih rest made)
    | place name => simpa [pieceText] using Filled.place first known (ih rest made)

/-- A template of which a piece does not come out is spoiled by the first such piece. -/
theorem spoiled_of_mapM (plain : ∀ piece ∈ template, piece.Plain) {context : Context} {e : Raised}
    (failed : template.mapM (pieceIn context) = .error e) :
    Spoiled context.told e template.text.toList := by
  induction template with
  | nil => cases failed
  | cons piece template ih =>
    obtain ⟨first, rest⟩ := List.forall_mem_cons.mp plain
    rw [List.mapM_cons] at failed
    rw [toList_text_cons]
    rcases bind_eq_error_iff.mp failed with raised | ⟨shown, known, later⟩
    · cases piece with
      | words s => cases raised
      | place name => simpa [pieceText] using Spoiled.here first raised
    · rcases bind_eq_error_iff.mp later with later | ⟨others, _, made⟩
      · cases piece with
        | words s => exact spoiled_append first (ih rest later)
        | place name => simpa [pieceText] using Spoiled.place first known (ih rest later)
      · cases made

theorem fill_eq_error {context : Context} {e : Raised} :
    template.fill context = .error e ↔
      e.isMissingName = false ∧ template.mapM (pieceIn context) = .error e := by
  unfold fill
  cases template.mapM (pieceIn context) with
  | ok pieces => simp
  | error first =>
    by_cases missing : first.isMissingName = true
    · simp only [if_pos missing, reduceCtorEq, false_iff, not_and, Except.error.injEq]
      rintro other rfl
      exact Bool.noConfusion (missing.symm.trans other)
    · simp only [if_neg missing, Except.error.injEq]
      constructor
      · rintro rfl
        exact ⟨Bool.eq_false_iff.mpr missing, rfl⟩
      · exact And.right

/-- Filling a template ends in an error that is not about a missing name exactly if this error
spoils the template. -/
theorem fill_eq_error_iff (plain : ∀ piece ∈ template, piece.Plain) {context : Context}
    {e : Raised} :
    template.fill context = .error e ↔
      e.isMissingName = false ∧ Spoiled context.told e template.text.toList := by
  rw [fill_eq_error]
  refine and_congr_right fun _ => ⟨spoiled_of_mapM plain, fun spoiled => ?_⟩
  cases whole : template.mapM (pieceIn context) with
  | ok pieces => exact absurd (filled_of_mapM plain whole) (spoiled.only.1 _)
  | error first => rw [spoiled.only.2 _ (spoiled_of_mapM plain whole)]

end Template

/-! ## Rendering -/

/-- A text renders a template in a context: the template can be filled if only its names are known;
the text is the filled template if the context tells a text for each of them, and the template as it
is if there is one that the context tells none for. -/
structure Renders (context : Context) (written text : String) : Prop where
  readable : ∀ value : String → String,
    ∃ out, Filled (fun name => .ok (value name)) written.toList out
  filled : (∀ name, HasPlace written.toList name → ∃ shown, context.told name = .ok shown) →
    ∀ out, Filled context.told written.toList out ↔ out = text.toList
  kept : ∀ name e, HasPlace written.toList name → context.told name = .error e → text = written

namespace Template

variable {template : Template}

/-- A template whose names are known can be filled. -/
theorem exists_filled (plain : ∀ piece ∈ template, piece.Plain) (value : String → String) :
    ∃ out, Filled (fun name => .ok (value name)) template.text.toList out := by
  induction template with
  | nil => exact ⟨[], .done⟩
  | cons piece template ih =>
    obtain ⟨first, plain⟩ := List.forall_mem_cons.mp plain
    obtain ⟨out, filled⟩ := ih plain
    rw [toList_text_cons]
    cases piece with
    | words s => exact ⟨_, filled_append first filled⟩
    | place name =>
      have there : Filled (fun name => .ok (value name))
          ('\x7b' :: (name.toList ++ '\x7d' :: (text template).toList)) _ := .place first rfl filled
      exact ⟨_, by simpa [pieceText] using there⟩

theorem exists_of_mapM_error {context : Context} {e : Raised}
    (failed : template.mapM (pieceIn context) = .error e) :
    ∃ piece ∈ template, pieceIn context piece = .error e := by
  obtain ⟨piece, before, after, rfl, -, raised⟩ := mapM_eq_error_iff.mp failed
  exact ⟨piece, by simp, raised⟩

/-- What a template is filled with renders it. -/
theorem renders_fill (plain : ∀ piece ∈ template, piece.Plain) {context : Context} {text : String}
    (filled : template.fill context = .ok text) : Renders context template.text text := by
  unfold fill at filled
  cases whole : template.mapM (pieceIn context) with
  | ok pieces =>
    rw [whole] at filled
    cases filled
    have filled := filled_of_mapM plain whole
    constructor
    case readable => exact exists_filled plain
    case filled => exact fun _ out => ⟨fun other => other.unique filled, fun same => same ▸ filled⟩
    case kept =>
      intro name e place raised
      obtain ⟨shown, known⟩ := filled.known_of_hasPlace place
      cases known.symm.trans raised
  | error e =>
    rw [whole] at filled
    dsimp only at filled
    split at filled
    · cases filled
      have spoiled := spoiled_of_mapM plain whole
      constructor
      case readable => exact exists_filled plain
      case filled =>
        intro known
        obtain ⟨piece, member, raised⟩ := exists_of_mapM_error whole
        cases piece with
        | words s => cases raised
        | place name =>
          obtain ⟨shown, told⟩ := known name (hasPlace_text plain member)
          cases told.symm.trans raised
      case kept => exact fun _ _ _ _ => rfl
    · cases filled

end Template

theorem ErrorCode.messageTemplate_plain (code : ErrorCode) :
    ∀ piece ∈ code.messageTemplate, piece.Plain := by
  cases code <;> decide +kernel

theorem ErrorCode.hintTemplates_plain (code : ErrorCode) :
    ∀ template ∈ code.hintTemplates, ∀ piece ∈ template, piece.Plain := by
  cases code <;> decide +kernel

/-- A place in a hint has the name of the first place in the message. -/
theorem ErrorCode.message_of_hint (code : ErrorCode) {template : Template}
    (there : template ∈ code.hintTemplates) {name : String} (place : .place name ∈ template) :
    ∃ words rest, code.messageTemplate = .words words :: .place name :: rest := by
  cases code <;> simp only [hintTemplates, List.mem_cons, List.not_mem_nil, or_false] at there
  all_goals
    rcases there with rfl | rfl <;> simp at place
    try exact place ▸ ⟨_, _, rfl⟩

namespace Diagnostic

theorem make_eq_error_iff {code : ErrorCode} {context : Context} {cause : Option Cause}
    {e : Raised} :
    make code context cause = .error e ↔ code.messageTemplate.fill context = .error e := by
  unfold make
  split
  · next told => simp [told]
  · next told => simp [told]

/-- A diagnostic that is there has hints, each of which renders its template: a value that spoils a
hint would have spoiled the message before. -/
theorem exists_hints (d : Diagnostic) :
    ∃ hints, d.hints = .ok hints ∧
      List.Forall₂ (fun hint template => Renders d.context template.text hint) hints
        d.code.hintTemplates := by
  refine mapM_eq_ok_of_forall fun template there => ?_
  have plain := d.code.hintTemplates_plain template there
  cases filled : template.fill d.context with
  | ok hint => exact ⟨hint, rfl, Template.renders_fill plain filled⟩
  | error e =>
    obtain ⟨known, failed⟩ := Template.fill_eq_error.mp filled
    obtain ⟨piece, member, raised⟩ := Template.exists_of_mapM_error failed
    cases piece with
    | words s => cases raised
    | place name =>
      obtain ⟨words, rest, whole⟩ := d.code.message_of_hint there member
      have spoiled : d.code.messageTemplate.fill d.context = .error e := by
        rw [whole, Template.fill_eq_error]
        refine ⟨known, ?_⟩
        rw [List.mapM_cons, List.mapM_cons, raised]
        rfl
      cases spoiled.symm.trans d.told

/-- A diagnostic with its message and hints as JSON, with the values of the context if each of them
can be shown alone. -/
theorem json_eq (d : Diagnostic) {hints : List String} (told : d.hints = .ok hints) :
    d.json = d.shownContext.map fun shown => .object <|
      [("error_id", .text d.code.identifier), ("code", .number d.code.number),
        ("category", .text d.code.category), ("message", .text d.message),
        ("recovery_hints", .list (hints.map .text)),
        ("context", .object (shown.map fun (name, value) => (name, .text value)))] ++
      (d.cause.elim [] fun cause => [("cause", .text cause.message)]) := by
  unfold json
  rw [told]
  cases d.shownContext <;> rfl

end Diagnostic

/-! ## Values that have a text -/

namespace Value

/-- A value has a text, within a sentence and alone. -/
def HasText (value : Value) : Prop :=
  (∃ s, value.placed = .ok s) ∧ ∃ s, value.shown = .ok s

mutual

/-- The numbers in a value are short, and the values of other kinds in it tell their texts. -/
def Tells : Value → Prop
  | .int n => Text.IsShort n
  | .list items | .tuple items | .set items => AllTell items
  | .map items => PairsTell items
  | .other _ placed shown literal =>
    (∃ s, placed.answer = .ok s) ∧ (∃ s, shown.answer = .ok s) ∧ ∃ s, literal.answer = .ok s
  | _ => True

/-- All values of a list tell their texts. -/
def AllTell : List Value → Prop
  | [] => True
  | item :: items => item.Tells ∧ AllTell items

/-- All keys and values of a list of pairs tell their texts. -/
def PairsTell : List (Value × Value) → Prop
  | [] => True
  | (key, item) :: items => key.Tells ∧ item.Tells ∧ PairsTell items

end

mutual

theorem exists_literal : (value : Value) → value.Tells → ∃ s, value.literal = .ok s
  | .int _, short => ⟨_, Text.decimal_eq_ok_iff.mpr ⟨short, rfl⟩⟩
  | .list items, tells => by
    obtain ⟨texts, told⟩ := exists_literals items tells
    exact ⟨_, by rw [literal, told]; rfl⟩
  | .tuple items, tells => by
    obtain ⟨texts, told⟩ := exists_literals items tells
    exact ⟨_, by rw [literal, told]; rfl⟩
  | .set [], _ => ⟨_, rfl⟩
  | .set (item :: items), tells => by
    obtain ⟨texts, told⟩ := exists_literals (item :: items) tells
    exact ⟨_, by rw [literal, told]; exacts [rfl, nofun]⟩
  | .map items, tells => by
    obtain ⟨texts, told⟩ := exists_pairLiterals items tells
    exact ⟨_, by rw [literal, told]; rfl⟩
  | .other .., tells => tells.2.2
  | .null, _ | .bool true, _ | .bool false, _ | .float _, _ | .text _, _ | .bytes _, _
  | .date .., _ | .moment _, _ | .enclosing true, _ | .enclosing false, _ => ⟨_, rfl⟩

theorem exists_literals : (items : List Value) → AllTell items → ∃ texts, literals items = .ok texts
  | [], _ => ⟨_, rfl⟩
  | item :: items, ⟨first, rest⟩ => by
    obtain ⟨text, told⟩ := exists_literal item first
    obtain ⟨texts, others⟩ := exists_literals items rest
    exact ⟨_, by rw [literals, told, others]; rfl⟩

theorem exists_pairLiterals :
    (items : List (Value × Value)) → PairsTell items → ∃ texts, pairLiterals items = .ok texts
  | [], _ => ⟨_, rfl⟩
  | (key, item) :: items, ⟨first, second, rest⟩ => by
    obtain ⟨name, named⟩ := exists_literal key first
    obtain ⟨text, told⟩ := exists_literal item second
    obtain ⟨texts, others⟩ := exists_pairLiterals items rest
    exact ⟨_, by rw [pairLiterals, named, told, others]; rfl⟩

end

/-- A value has a text if the numbers in it are short and the values of other kinds tell theirs. -/
theorem Tells.hasText {value : Value} (tells : value.Tells) : value.HasText := by
  cases value with
  | other => exact ⟨tells.1, tells.2.1⟩
  | text | date | moment => exact ⟨⟨_, rfl⟩, _, rfl⟩
  | _ => exact ⟨exists_literal _ tells, exists_literal _ tells⟩

/-- A number that is not short has no text. -/
theorem shown_of_not_isShort {n : Int} (long : ¬Text.IsShort n) :
    (Value.int n).shown = .error Text.tooManyDigits := by
  have alone : (Value.int n).shown = Text.decimal n := rfl
  rw [alone, Text.decimal_of_not_isShort long]

end Value

/-! ## The texts of a diagnostic -/

/-- The texts of a diagnostic: the message and each hint render their templates, and the diagnostic
as JSON has both. It has the values of the context, too, each as it is shown alone; if one cannot be
shown, there is no JSON. -/
structure Diagnostic.Rendered (d : Diagnostic) (hints : List String) : Prop where
  message : Renders d.context d.code.messageTemplate.text d.message
  told : d.hints = .ok hints
  each : List.Forall₂ (fun hint template => Renders d.context template.text hint) hints
    d.code.hintTemplates
  json : ∀ shown, d.shownContext = .ok shown → ∃ fields, d.json = .ok (.object fields) ∧
    fields.lookup "message" = some (.text d.message) ∧
    fields.lookup "recovery_hints" = some (.list (hints.map .text)) ∧
    fields.lookup "context" = some (.object (shown.map fun (name, value) => (name, .text value)))

theorem Diagnostic.exists_rendered (d : Diagnostic) : ∃ hints, d.Rendered hints := by
  obtain ⟨hints, told, rendered⟩ := d.exists_hints
  refine ⟨hints, Template.renders_fill d.code.messageTemplate_plain d.told, told, rendered, ?_⟩
  intro shown shows
  rw [d.json_eq told, shows]
  exact ⟨_, rfl, rfl, rfl, rfl⟩

theorem Context.told_of_hasText {context : Context}
    (texts : ∀ item ∈ context, item.2.HasText) {name : String} {e : Raised}
    (raised : context.told name = .error e) : e.isMissingName = true := by
  rw [told, Template.pieceIn] at raised
  split at raised
  · next value found =>
    obtain ⟨before, after, rfl, -⟩ := List.lookup_eq_some_iff.mp found
    obtain ⟨⟨s, placed⟩, -⟩ := texts (name, value) (by simp)
    cases placed.symm.trans raised
  · cases raised
    rfl

/-- The context of a diagnostic whose values can be shown is shown item by item. -/
theorem Diagnostic.exists_shownContext (d : Diagnostic)
    (texts : ∀ item ∈ d.context, item.2.HasText) :
    ∃ shown, d.shownContext = .ok shown ∧
      List.Forall₂ (fun (text : String × String) (item : String × Value) =>
        text.1 = item.1 ∧ item.2.shown = .ok text.2) shown d.context := by
  refine mapM_eq_ok_of_forall fun item member => ?_
  obtain ⟨-, text, shown⟩ := texts item member
  exact ⟨(item.1, text), by simp [shown, bind, Except.bind, pure, Except.pure], rfl, shown⟩

example : (Diagnostic.badConfig "a\x7bdetail\x7db" "no mapping" none).message =
    "Invalid configuration in 'a\x7bdetail\x7db': no mapping" := by decide

end Provenance
