import RecordSchema.Pattern.Parser

/-!
# Programs of patterns

A syntax tree becomes a program in which the flags are settled: groups with flags are gone,
captures are pairs of marks, and repetitions of a single character are told from the others.
Beside it stands what is known about where a match can begin.
-/

namespace RecordSchema.Pattern

/-! ## Programs -/

/-- A program.  As in a tree, every constructor but three holds one step and what comes next.
`jump` ends a part like `done`, but hides what comes after the part. -/
inductive Code where
  | done
  | jump
  | never
  | char (test : CharTest) (next : Code)
  | place (at_ : Place) (flags : Flags) (next : Code)
  | mark (index : Nat) (next : Code)
  | reference (index : Nat) (flags : Flags) (next : Code)
  | branch (first others next : Code)
  | loopChar (least : Nat) (most : Option Nat) (greed : Greed) (test : CharTest) (next : Code)
  | loop (least : Nat) (most : Option Nat) (greed : Greed) (body next : Code)
  | atomic (body next : Code)
  | look (negated : Bool) (back : Nat) (body next : Code)
  | ifCaptured (index : Nat) (yes no next : Code)
  deriving DecidableEq, Repr

/-- The test of an item that takes exactly one character. -/
def Atom.test? (flags : Flags) : Atom → Option CharTest
  | .code value => some (.ofCode flags false value)
  | .otherCode value => some (.ofCode flags true value)
  | .any => some (if flags.dotAll then .any else .anyInLine)
  | .set negated items => some (.ofItems flags negated items)
  | .place _ => none
  | .reference _ => none

def Atom.compile (flags : Flags) (next : Code) (item : Atom) : Code :=
  match item, item.test? flags with
  | _, some test => .char test next
  | .place at_, none => .place at_ flags next
  | .reference index, none => .reference index flags next
  | _, none => next

namespace Tree

/-- The test of a tree that takes exactly one character and captures nothing. -/
def test? (flags : Flags) : Tree → Option CharTest
  | .atom item .done => item.test? flags
  | .flagged on off body .done => body.test? (flags.within on off)
  | _ => none

/-- The program of a tree, with what comes after it. -/
def compile (captures : List (Nat × Width)) : Tree → Flags → Code → Code
  | .done, _, rest => rest
  | .never, _, _ => .never
  | .atom item next, flags, rest => item.compile flags (next.compile captures flags rest)
  | .choice first others next, flags, rest =>
    .branch (first.compile captures flags .jump) (others.compile captures flags .done)
      (next.compile captures flags rest)
  | .repetition least most greed body next, flags, rest =>
    match body.test? flags with
    | some test => .loopChar least most greed test (next.compile captures flags rest)
    | none =>
      .loop least most greed (body.compile captures flags .done)
        (next.compile captures flags rest)
  | .capture index body next, flags, rest =>
    .mark (2 * (index - 1)) (body.compile captures flags
      (.mark (2 * (index - 1) + 1) (next.compile captures flags rest)))
  | .flagged on off body next, flags, rest =>
    body.compile captures (flags.within on off) (next.compile captures flags rest)
  | .atomic body next, flags, rest =>
    .atomic (body.compile captures flags .done) (next.compile captures flags rest)
  | .look behind negated body next, flags, rest =>
    .look negated (if behind then (body.width captures).least else 0)
      (body.compile captures flags .done) (next.compile captures flags rest)
  | .ifCaptured index yes no next, flags, rest =>
    .ifCaptured index (yes.compile captures flags (if no = .done then .done else .jump))
      (no.compile captures flags .done) (next.compile captures flags rest)

/-! ## Where a match can begin -/

/-- Whether the text that a tree matches begins with a known character whatever its case, and
whether it is known as a whole. -/
def knownStart (flags : Flags) : Tree → Bool × Bool
  | .done => (false, true)
  | .atom (.code value) next =>
    if flags.ignoreCase && isCased flags.ascii value then (false, false)
    else (true, (next.knownStart flags).2)
  | .capture _ body next =>
    match body.knownStart flags with
    | (false, true) => next.knownStart flags
    | start => start
  | .flagged on off body next =>
    match body.knownStart (flags.within on off) with
    | (false, true) => next.knownStart flags
    | start => start
  | _ => (false, false)

/-- The code point that a tree begins with, whatever its case. -/
def firstCode? (flags : Flags) : Tree → Option Nat
  | .atom (.code value) _ =>
    if flags.ignoreCase && isCased flags.ascii value then none else some value
  | _ => none

/-- The code points that alternatives begin with, whatever their case. -/
def firstCodes? (flags : Flags) : Tree → Option (List Nat)
  | .never => some []
  | .choice first others _ => do
    let code ← firstCode? flags first
    let codes ← firstCodes? flags others
    some (code :: codes)
  | _ => none

/-- The set of characters that a tree can begin with, when it does not depend on case: whether it
is a complement, and its members. -/
def firstItems? (flags : Flags) : Tree → Option (Bool × List SetItem)
  | .capture _ body _ => body.firstItems? flags
  | .flagged on off body _ => body.firstItems? (flags.within on off)
  | .atom (.code value) next =>
    ((Tree.atom (.code value) next).firstCode? flags).map fun code => (false, [.code code])
  | .atom (.set negated items) _ =>
    if flags.ignoreCase && items.any (isFolded flags.ascii) then none else some (negated, items)
  | .choice first others next =>
    ((Tree.choice first others next).firstCodes? flags).map fun codes => (false, codes.map .code)
  | _ => none
where
  /-- Whether a member may take more when case is ignored. -/
  isFolded (ascii : Bool) : SetItem → Bool
    | .code value => isCased ascii value
    | .interval first last => SetItem.lastLowered < last || hasCasedIn ascii first last
    | .category _ _ => false

end Tree

/-! ## Whole patterns -/

/-- What is known beforehand of the first character of a match. -/
inductive Start where
  | unknown
  /-- It is a certain character. -/
  | literal
  | oneOf (chosen : CharSet)
  deriving DecidableEq, Repr

/-- A program with what is known beforehand of its matches: the least length, and the first
character. -/
structure Program where
  code : Code
  least : Nat
  start : Start
  deriving DecidableEq, Repr

namespace Program

/-- The program of a pattern.  The set of first characters has the alphabet of the whole pattern,
also where the group that it comes from has the other one. -/
def ofExpression (expression : Expression) : Program :=
  let tree := expression.tree
  let flags := expression.flags
  let least := (tree.width expression.captureWidths).least
  let start :=
    if least = 0 then Start.unknown
    else if (tree.knownStart flags).1 then .literal
    else
      match tree.firstItems? flags with
      | some (negated, items) => .oneOf ⟨flags.ascii, negated, items.map (·.exact)⟩
      | none => .unknown
  ⟨tree.compile expression.captureWidths flags .done, least, start⟩

end Program

/-! ## Releases -/

/-- What releases of the matcher differ in. -/
structure Release where
  /-- Whether a possessive repetition goes on from where its last successful round ended, and not
  from where the failed round behind it looked last. -/
  restoresPosition : Bool
  /-- The first length that a look behind cannot go back. -/
  backLimit : Nat
  /-- How a look behind of that length is refused. -/
  backRefusal : PatternError
  deriving DecidableEq, Repr

namespace Release

/-- The release that patterns are searched with unless another one is asked for. -/
def early : Release where
  restoresPosition := false
  backLimit := 2147483648
  backRefusal := .looksTooFarBack

def documented : Release where
  restoresPosition := true
  backLimit := 4294967296
  backRefusal := .malformed

end Release

def Code.looksTooFarBack (limit : Nat) : Code → Bool
  | .done => false
  | .jump => false
  | .never => false
  | .char _ next => next.looksTooFarBack limit
  | .place _ _ next => next.looksTooFarBack limit
  | .mark _ next => next.looksTooFarBack limit
  | .reference _ _ next => next.looksTooFarBack limit
  | .branch first others next =>
    first.looksTooFarBack limit || others.looksTooFarBack limit || next.looksTooFarBack limit
  | .loopChar _ _ _ _ next => next.looksTooFarBack limit
  | .loop _ _ _ body next => body.looksTooFarBack limit || next.looksTooFarBack limit
  | .atomic body next => body.looksTooFarBack limit || next.looksTooFarBack limit
  | .look _ back body next =>
    limit ≤ back || body.looksTooFarBack limit || next.looksTooFarBack limit
  | .ifCaptured _ yes no next =>
    yes.looksTooFarBack limit || no.looksTooFarBack limit || next.looksTooFarBack limit

end RecordSchema.Pattern
