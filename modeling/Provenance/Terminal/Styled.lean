import Provenance.Terminal.Emoji
import Provenance.Terminal.Screen

/-!
Style marks: words in brackets that style the text between them. A backslash before a bracket takes
its meaning away.
-/
namespace Provenance.Terminal

/-- The text without the backslashes that stand before opening brackets. -/
def unescapeBrackets : List Char → List Char
  | [] => []
  | '\\' :: '[' :: rest => '[' :: unescapeBrackets rest
  | c :: rest => c :: unescapeBrackets rest

/-- A text without marks as it is shown. -/
def plain (screen : Screen) (s : String) : String :=
  replaceEmoji screen.picture (String.ofList (unescapeBrackets s.toList))

/-- A text before a closing mark as it is shown. Of the backslashes at its end, two make one; if
there is one more, the mark after it is shown, too. -/
def beforeMark (screen : Screen) (mark s : String) : String :=
  let body := Text.trimEndWhile (· == '\\') s.toList
  let slashes := s.length - body.length
  plain screen (String.ofList body) ++ String.ofList (List.replicate (slashes / 2) '\\') ++
    (if slashes % 2 = 0 then "" else mark)

/-- Whether a character may stand between the start and the letter of a style sequence. -/
def isStyleArgument (c : Char) : Bool :=
  c.isDigit || c = ';' || c = '?'

/-- What stands behind a sequence that sets styles on a terminal, if the text begins with one: an
escape character, a bracket, arguments, and a letter. -/
def afterStyle? : List Char → Option (List Char)
  | '\x1b' :: '[' :: rest =>
    match rest.dropWhile isStyleArgument with
    | last :: after => if last.isAlpha then some after else none
    | [] => none
  | _ => none

theorem length_lt_of_afterStyle? {s after : List Char} (h : afterStyle? s = some after) :
    after.length < s.length := by
  unfold afterStyle? at h
  split at h
  · rename_i rest
    split at h
    · rename_i last tail hrest
      split at h
      · have shorter := (List.dropWhile_sublist isStyleArgument (l := rest)).length_le
        rw [hrest, List.length_cons] at shorter
        simp only [Option.some.injEq] at h
        subst h
        simp only [List.length_cons]
        omega
      · cases h
    · cases h
  · cases h

/-- The text without the sequences that set styles on a terminal. -/
def withoutStyles : List Char → List Char
  | [] => []
  | c :: rest =>
    match _h : afterStyle? (c :: rest) with
    | some after => withoutStyles after
    | none => c :: withoutStyles rest
termination_by s => s.length
decreasing_by
  · exact length_lt_of_afterStyle? _h
  · simp

end Provenance.Terminal
