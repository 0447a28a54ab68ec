/-!
# Flags of patterns

The switches that change what a pattern means, and how a group changes them for its inside.
-/

namespace RecordSchema.Pattern

/-- The switches that change what a pattern means. -/
structure Flags where
  ignoreCase : Bool := false
  multiline : Bool := false
  dotAll : Bool := false
  verbose : Bool := false
  ascii : Bool := false
  unicode : Bool := false
  template : Bool := false
  deriving DecidableEq, Repr

namespace Flags

/-- The switches that are on in either. -/
def union (left right : Flags) : Flags where
  ignoreCase := left.ignoreCase || right.ignoreCase
  multiline := left.multiline || right.multiline
  dotAll := left.dotAll || right.dotAll
  verbose := left.verbose || right.verbose
  ascii := left.ascii || right.ascii
  unicode := left.unicode || right.unicode
  template := left.template || right.template

/-- The switches that are on in the first and off in the second. -/
def without (left right : Flags) : Flags where
  ignoreCase := left.ignoreCase && !right.ignoreCase
  multiline := left.multiline && !right.multiline
  dotAll := left.dotAll && !right.dotAll
  verbose := left.verbose && !right.verbose
  ascii := left.ascii && !right.ascii
  unicode := left.unicode && !right.unicode
  template := left.template && !right.template

/-- The switches inside a group that turns some on and some off.  The two alphabets exclude each
other. -/
def within (outer on off : Flags) : Flags :=
  let outer := if on.ascii || on.unicode then { outer with ascii := false, unicode := false }
    else outer
  (outer.union on).without off

/-- Whether a switch is on in both. -/
def overlaps (left right : Flags) : Bool :=
  (left.ignoreCase && right.ignoreCase) || (left.multiline && right.multiline) ||
    (left.dotAll && right.dotAll) || (left.verbose && right.verbose) ||
    (left.ascii && right.ascii) || (left.unicode && right.unicode) ||
    (left.template && right.template)

def letters (flags : Flags) : String :=
  (if flags.ignoreCase then "i" else "") ++ (if flags.multiline then "m" else "") ++
    (if flags.dotAll then "s" else "") ++ (if flags.verbose then "x" else "")

end Flags
end RecordSchema.Pattern
