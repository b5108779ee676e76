/-!
What is known of the terminal that something is drawn for.
-/
namespace Provenance

/-- A terminal: its width in cells, whether it takes other characters than those of ASCII, and the
pictures that it has for names between colons. -/
structure Screen where
  width : Nat
  isUnicode : Bool
  picture : String → Option String

end Provenance
