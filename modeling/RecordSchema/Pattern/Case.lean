import RecordSchema.Text.Case

/-!
# Letter case in patterns

What counts as equal when a pattern ignores case.  In the narrow alphabet only the ASCII letters
have case; in the wide one two code points are equal when their lower cases are, or when their
lower cases share an upper case.
-/

namespace RecordSchema.Pattern

def sameUpper : List (List Nat) :=
  [[105, 305], [115, 383], [181, 956], [837, 953, 8126], [912, 8147], [944, 8163], [946,
   976], [949, 1013], [952, 977], [954, 1008], [960, 982], [961, 1009], [962, 963], [966,
   981], [1074, 7296], [1076, 7297], [1086, 7298], [1089, 7299], [1090, 7300, 7301], [1098,
   7302], [1123, 7303], [7304, 42571], [7777, 7835], [64261, 64262]]

def lowerEquals (code : Nat) : List Nat :=
  (sameUpper.find? (·.contains code)).getD [code]

def lowerSources (code : Nat) : List Nat :=
  let above := Text.lowerRuns.filterMap fun run =>
    let source := ((code : Int) - run.distance).toNat
    if run.contains source then some source else none
  if Text.moveBy Text.lowerRuns code = code then code :: above else above

def lowerCode (ascii : Bool) (code : Nat) : Nat :=
  if ascii then (if 65 ≤ code ∧ code ≤ 90 then code + 32 else code)
  else Text.moveBy Text.lowerRuns code

def caseVariants (ascii : Bool) (code : Nat) : List Nat :=
  let lower := lowerCode ascii code
  if ascii then
    if 97 ≤ lower ∧ lower ≤ 122 then [lower, lower - 32] else [lower]
  else (lowerEquals lower).flatMap lowerSources

def isCased (ascii : Bool) (code : Nat) : Bool :=
  if ascii then (65 ≤ code && code ≤ 90) || (97 ≤ code && code ≤ 122)
  else Text.moveBy Text.lowerRuns code != code || Text.moveBy Text.upperRuns code != code ||
    (Text.upperSequences.lookup code).isSome

/-- Whether a run of code points has a member in an interval. -/
def meets (run : Text.CaseRun) (first last : Nat) : Bool :=
  let rounds := (first - run.first + (run.stride - 1)) / run.stride
  let least := run.first + rounds * run.stride
  least ≤ run.last && least ≤ last

/-- Whether a code point in an interval has another case. -/
def hasCasedIn (ascii : Bool) (first last : Nat) : Bool :=
  if ascii then (first ≤ 90 && 65 ≤ last) || (first ≤ 122 && 97 ≤ last)
  else Text.lowerRuns.any (meets · first last) || Text.upperRuns.any (meets · first last) ||
    Text.upperSequences.any fun (code, _) => first ≤ code && code ≤ last

end RecordSchema.Pattern
