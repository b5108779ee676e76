import Provenance.Text.Blank
import Provenance.Text.Case

/-!
Emoji codes: a name between colons stands for a picture, if there is a picture of the name.
-/
namespace Provenance.Terminal

/-- The short names, and their pictures. -/
def shortNames : List (String × String) := [
    ("+1", "👍"), ("-1", "👎"), ("100", "💯"), ("__1", "👎"), ("a", "🅰"), ("ab", "🆎"),
    ("abc", "🔤"), ("ant", "🐜"), ("art", "🎨"), ("atm", "🏧"), ("axe", "🪓"), ("b", "🅱"),
    ("bat", "🦇"), ("bed", "🛏"), ("bee", "🐝"), ("bow", "🙇"), ("boy", "👦"), ("bug", "🐛"),
    ("bus", "🚌"), ("car", "🚗"), ("cat", "🐱"), ("cd", "💿"), ("cl", "🆑"), ("cop", "👮"),
    ("cow", "🐮"), ("cry", "😢"), ("dna", "🧬"), ("dog", "🐶"), ("dvd", "📀"), ("ear", "👂"),
    ("egg", "🍳"), ("elf", "🧝"), ("end", "🔚"), ("ewe", "🐑"), ("eye", "👁"), ("fax", "📠"),
    ("fog", "🌫"), ("gem", "💎"), ("gun", "🔫"), ("ice", "🧊"), ("id", "🆔"), ("imp", "👿"),
    ("joy", "😂"), ("key", "🔑"), ("leg", "🦵"), ("leo", "\u264c"), ("m", "\u24c2"),
    ("mag", "🔍"), ("man", "👨"), ("new", "🆕"), ("ng", "🆖"), ("o", "\u2b55"), ("o2", "🅾"),
    ("ok", "🆗"), ("om", "🕉"), ("on", "🔛"), ("one", "\u0031\ufe0f\u20e3"), ("owl", "🦉"),
    ("ox", "🐂"), ("pen", "🖊"), ("pie", "🥧"), ("pig", "🐷"), ("ram", "🐏"), ("rat", "🐀"),
    ("sa", "🈂"), ("six", "\u0036\ufe0f\u20e3"), ("ski", "🎿"), ("sob", "😭"), ("sos", "🆘"),
    ("sun", "\u2600"), ("tea", "🍵"), ("ten", "🔟"), ("tm", "\u2122"), ("top", "🔝"),
    ("tv", "📺"), ("two", "\u0032\ufe0f\u20e3"), ("up", "🆙"), ("v", "\u270c"),
    ("vhs", "📼"), ("vs", "🆚"), ("wc", "🚾"), ("x", "\u274c"), ("yen", "💴"), ("yum", "😋"),
    ("zap", "\u26a1"), ("zzz", "💤")
  ]

/-- The pictures of short names. -/
def shortPicture (name : String) : Option String := shortNames.lookup name

variable (picture : String → Option String)

/-- The picture of a name in any letter case. A name may end in `-text` or `-emoji`, which asks for
a form of it. -/
def emoji? (name : List Char) : Option (List Char) :=
  let look (name : List Char) (form : List Char) : Option (List Char) :=
    (picture (Text.lower (String.ofList name))).map (·.toList ++ form)
  let ending (suffix : List Char) : Option (List Char) :=
    if suffix.isSuffixOf name then some (name.take (name.length - suffix.length)) else none
  match ending "-emoji".toList, ending "-text".toList with
  | some name, _ => look name ['\ufe0f']
  | none, some name => look name ['\ufe0e']
  | none, none => look name []

/-- Replaces codes, left to right. `name` are the characters since a colon that may begin a code,
last first; a code between colons that has no picture stays, and both its colons are used up. -/
def replaceFrom : Option (List Char) → List Char → List Char
  | none, [] => []
  | some name, [] => ':' :: name.reverse
  | none, c :: rest =>
    if c = ':' then replaceFrom (some []) rest else c :: replaceFrom none rest
  | some name, c :: rest =>
    if c = ':' then
      (emoji? picture name.reverse).getD (':' :: name.reverse ++ [':']) ++ replaceFrom none rest
    else if Text.isBlank c then ':' :: name.reverse ++ c :: replaceFrom none rest
    else replaceFrom (some (c :: name)) rest

/-- The text with pictures for codes. -/
def replaceEmoji (s : String) : String :=
  String.ofList (replaceFrom picture none s.toList)

end Provenance.Terminal
