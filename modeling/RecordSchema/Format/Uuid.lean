import RecordSchema.Number.Reader
import RecordSchema.Text.Pieces

/-!
# Universally unique identifiers

An identifier is 32 characters that read as a hexadecimal number once its scheme names, its
hyphens, and the braces around it are gone.
-/

namespace RecordSchema.Format

def trimBraces (text : List Char) : List Char :=
  let isBrace := fun c : Char => c == '\x7b' || c == '\x7d'
  ((text.dropWhile isBrace).reverse.dropWhile isBrace).reverse

/-- The characters of an identifier without its decorations. -/
def bareUuid (text : String) : List Char :=
  let unnamed := Text.replaceChars "uuid:".toList []
    (Text.replaceChars "urn:".toList [] text.toList)
  (trimBraces unnamed).filter (· != '-')

def isUuid (text : String) : Bool :=
  let digits := bareUuid text
  digits.length == 32 && (Number.readHex? (String.ofList digits)).isSome

end RecordSchema.Format
