import RecordSchema.Pattern.Case
import RecordSchema.Pattern.Flags
import RecordSchema.Text.Blank
import RecordSchema.Text.Letters

/-!
# Tests of one character

What a pattern says about a single character: the members of sets as a pattern writes them, and
the tests that they become under flags.

Case is ignored by testing the lower case of a character.  The members of a set up to U+FFFF are
replaced by their lower cases then; those above stay as they are written, and an interval that
reaches above also takes what has its upper case there.
-/

namespace RecordSchema.Pattern

/-! ## Members of sets -/

/-- The classes of characters that have an escape of their own. -/
inductive Category where
  | digit
  | space
  | word
  deriving DecidableEq, Repr

/-- Whether a code point is of a class, in the narrow or the wide alphabet. -/
def Category.contains (ascii : Bool) (code : Nat) : Category → Bool
  | .digit =>
    if ascii then 48 ≤ code && code ≤ 57 else Text.isDigit (Char.ofNat code)
  | .space =>
    if ascii then (9 ≤ code && code ≤ 13) || code == 32 else Text.isBlank (Char.ofNat code)
  | .word =>
    code == 95 ||
      if ascii then
        (48 ≤ code && code ≤ 57) || (65 ≤ code && code ≤ 90) || (97 ≤ code && code ≤ 122)
      else Text.isLetterOrNumeral (Char.ofNat code)

/-- A member of a set as it is written: a code point, an interval, or a class or its
complement. -/
inductive SetItem where
  | code (value : Nat)
  | interval (first last : Nat)
  | category (kind : Category) (negated : Bool)
  deriving DecidableEq, Repr

/-- A member of a set as it is tested. -/
inductive Member where
  | interval (first last : Nat)
  /-- What lies in an interval, or has its upper case there. -/
  | eitherCase (first last : Nat)
  /-- The lower cases of an interval, and what counts as equal to them. -/
  | lowered (first last : Nat)
  | category (kind : Category) (negated : Bool)
  deriving DecidableEq, Repr

def Member.contains (ascii : Bool) (code : Nat) : Member → Bool
  | .interval first last => first ≤ code && code ≤ last
  | .eitherCase first last =>
    let upper := Text.moveBy Text.upperRuns code
    (first ≤ code && code ≤ last) || (first ≤ upper && upper ≤ last)
  | .lowered first last =>
    (caseVariants ascii code).any fun source => first ≤ source && source ≤ last
  | .category kind negated => kind.contains ascii code != negated

/-- A set of characters, or the complement of one, in the narrow or the wide alphabet. -/
structure CharSet where
  ascii : Bool
  negated : Bool
  members : List Member
  deriving DecidableEq, Repr

def CharSet.contains (set : CharSet) (code : Nat) : Bool :=
  set.members.any (·.contains set.ascii code) != set.negated

namespace SetItem

/-- The last code point that is replaced by its lower case in a set. -/
def lastLowered : Nat := 0xFFFF

def exact : SetItem → Member
  | .code value => .interval value value
  | .interval first last => .interval first last
  | .category kind negated => .category kind negated

def lowered : SetItem → List Member
  | .code value => if value ≤ lastLowered then [.lowered value value] else [.interval value value]
  | .interval first last =>
    if last ≤ lastLowered then [.lowered first last]
    else if first ≤ lastLowered then [.lowered first lastLowered, .eitherCase first last]
    else [.eitherCase first last]
  | .category kind negated => [.category kind negated]

def asksForCase (ascii : Bool) : SetItem → Bool
  | .code value => lastLowered < value || isCased ascii value
  | .interval first last => lastLowered < last || hasCasedIn ascii first last
  | .category _ _ => false

end SetItem

/-! ## Tests -/

/-- A test of one character. -/
inductive CharTest where
  | literal (code : Nat)
  | notLiteral (code : Nat)
  | any
  | anyInLine
  | set (chosen : CharSet)
  | lowerLiteral (ascii : Bool) (code : Nat)
  | notLowerLiteral (ascii : Bool) (code : Nat)
  | lowerSet (chosen : CharSet)
  deriving DecidableEq, Repr

namespace CharTest

def takes (code : Nat) : CharTest → Bool
  | .literal value => code == value
  | .notLiteral value => code != value
  | .any => true
  | .anyInLine => code != '\n'.toNat
  | .set chosen => chosen.contains code
  | .lowerLiteral ascii value => lowerCode ascii code == value
  | .notLowerLiteral ascii value => lowerCode ascii code != value
  | .lowerSet chosen => chosen.contains (lowerCode chosen.ascii code)

/-- The test for one code point, or for every other. -/
def ofCode (flags : Flags) (negated : Bool) (code : Nat) : CharTest :=
  if flags.ignoreCase && isCased flags.ascii code then
    let lower := lowerCode flags.ascii code
    let equals := if flags.ascii then [lower] else lowerEquals lower
    if equals.length = 1 then
      if negated then .notLowerLiteral flags.ascii lower else .lowerLiteral flags.ascii lower
    else .lowerSet ⟨flags.ascii, negated, equals.map fun equal => .interval equal equal⟩
  else if negated then .notLiteral code
  else .literal code

def ofItems (flags : Flags) (negated : Bool) (items : List SetItem) : CharTest :=
  if flags.ignoreCase && items.any (·.asksForCase flags.ascii) then
    .lowerSet ⟨flags.ascii, negated, items.flatMap (·.lowered)⟩
  else .set ⟨flags.ascii, negated, items.map (·.exact)⟩

end CharTest
end RecordSchema.Pattern
