import RecordSchema.Pattern.Program

/-!
# Matching

A program is run from a position of a text by trying its possibilities in order of preference,
each continued by what comes after it.

A run leaves two things behind, whether it succeeds or not: the position where it looked last, and
the marks that captures have set.  A failed possibility gives back the marks it has added; inside
a repetition it gives back the marks it has changed as well.  The last position matters in one
place: in early releases a possessive repetition goes on from there after its last, failed round.
-/

namespace RecordSchema.Pattern

/-! ## State -/

/-- What a run leaves behind: the last position, and the positions of the marks.  Those of a
capture are its start, at twice its place, and its end, right after. -/
structure Machine where
  last : Nat
  marks : Array (Option Nat)
  deriving DecidableEq, Repr

namespace Machine

def lookAt (machine : Machine) (position : Nat) : Machine :=
  { machine with last := position }

def setMark (machine : Machine) (index position : Nat) : Machine :=
  let marks := machine.marks
  { machine with marks :=
      if index < marks.size then marks.setIfInBounds index (some position)
      else (marks ++ Array.replicate (index - marks.size) none).push (some position) }

/-- The positions that a capture lies between, when it has been made and is not turned round. -/
def capture? (machine : Machine) (index : Nat) : Option (Nat × Nat) :=
  match machine.marks[2 * index]?, machine.marks[2 * index + 1]? with
  | some (some start), some (some stop) => if start ≤ stop then some (start, stop) else none
  | _, _ => none

/-- Give back the marks that were added since `earlier`, and inside a repetition all that were
changed. -/
def giveBack (machine : Machine) (inLoop : Bool) (earlier : Array (Option Nat)) : Machine :=
  { machine with marks := if inLoop then earlier else machine.marks.extract 0 earlier.size }

/-- Whether some capture ends before it starts. -/
def isCrossed (machine : Machine) : Bool :=
  (List.range (machine.marks.size / 2)).any fun index =>
    match machine.marks[2 * index]?, machine.marks[2 * index + 1]? with
    | some (some start), some (some stop) => stop < start
    | _, _ => false

end Machine

/-- Whether a run has succeeded, and what it leaves behind. -/
abbrev Outcome := Bool × Machine

/-- What comes after a part of a program, from the position that the part has reached. -/
abbrev Continuation := Nat → Machine → Outcome

/-- Nothing comes after. -/
def finish : Continuation := fun position machine => (true, machine.lookAt position)

/-- What comes after a part, and the character that it has to begin with if it begins with a
single one. -/
structure Rest where
  literal : Option Nat
  go : Continuation

/-- Nothing comes after, or nothing that the part can see. -/
def Rest.blind (go : Continuation) : Rest := ⟨none, go⟩

/-! ## Single characters -/

/-- A text as its code points. -/
abbrev Codes := Array Nat

namespace CharTest

def passes (test : CharTest) (text : Codes) (position : Nat) : Bool :=
  match text[position]? with
  | some code => test.takes code
  | none => false

/-- Whether counting with this test looks at the position it reaches. -/
def follows : CharTest → Bool
  | .lowerSet _ => true
  | _ => false

/-- The number of characters from a position on that pass a test, at most `count`. -/
def run (test : CharTest) (text : Codes) : Nat → Nat → Nat
  | 0, _ => 0
  | count + 1, position =>
    if test.passes text position then test.run text count (position + 1) + 1 else 0

/-- The number of characters that pass a test, and the state after counting them. -/
def count (test : CharTest) (text : Codes) (most : Option Nat) (position : Nat)
    (machine : Machine) : Nat × Machine :=
  let left := text.size - position
  let found := test.run text (min (most.getD left) left) position
  (found, machine.lookAt (if test.follows then position + found else position))

end CharTest

/-- The character that a program has to begin with, if it begins with a single one. -/
def Code.literal? (rest : Option Nat) : Code → Option Nat
  | .char (.literal code) _ => some code
  | .done => rest
  | _ => none

/-- Whether an alternative is passed over without a trial, because its first step is a plain test
that the next character does not pass. -/
def Code.isPassedOver (text : Codes) (position : Nat) : Code → Bool
  | .char (.literal code) _ => !(CharTest.literal code).passes text position
  | .char (.set chosen) _ => !(CharTest.set chosen).passes text position
  | _ => false

/-! ## Places and references -/

/-- Whether a word character meets another character, or an end of the text, at a position. -/
def isBoundary (ascii : Bool) (text : Codes) (position : Nat) : Bool :=
  let isWord := fun code : Option Nat =>
    (code.map fun code => Category.contains ascii code .word).getD false
  let before := if position = 0 then none else text[position - 1]?
  isWord before != isWord text[position]?

/-- Whether a position is a place of this kind.  A text without characters has no boundary, nor
any place that is none. -/
def Place.isAt (flags : Flags) (text : Codes) (position : Nat) : Place → Bool
  | .lineStart =>
    position == 0 || (flags.multiline && text[position - 1]? == some '\n'.toNat)
  | .lineEnd =>
    position == text.size ||
      (text[position]? == some '\n'.toNat && (flags.multiline || position + 1 == text.size))
  | .textStart => position == 0
  | .textEnd => position == text.size
  | .boundary => !text.isEmpty && isBoundary flags.ascii text position
  | .notBoundary => !text.isEmpty && !isBoundary flags.ascii text position

/-- Whether the text at `position` repeats `count` characters from `source` on. -/
def repeatsAt (flags : Flags) (text : Codes) : Nat → Nat → Nat → Bool
  | 0, _, _ => true
  | count + 1, source, position =>
    let folded := fun code : Nat => if flags.ignoreCase then lowerCode flags.ascii code else code
    match text[source]?, text[position]? with
    | some expected, some found =>
      folded expected == folded found && repeatsAt flags text count (source + 1) (position + 1)
    | _, _ => false

/-! ## Repetitions of one character -/

/-- Go on behind `least + extra` characters, or as many fewer as are needed, but at least
`least`. -/
def backOff (text : Codes) (inLoop : Bool) (tail : Rest) (position least : Nat) :
    Nat → Machine → Outcome
  | extra, machine =>
    let here := position + least + extra
    let tried :=
      if tail.literal.any fun code => text[here]? != some code then (false, machine)
      else
        match tail.go here (machine.lookAt here) with
        | (true, after) => (true, after)
        | (false, after) => (false, after.giveBack inLoop machine.marks)
    match tried, extra with
    | (true, after), _ => (true, after)
    | (false, after), 0 => (false, after)
    | (false, after), extra + 1 => backOff text inLoop tail position least extra after

/-- Go on here, or behind as many characters more as are needed, but at most `extra`. -/
def reachOut (text : Codes) (inLoop : Bool) (tail : Rest) (test : CharTest) :
    Nat → Nat → Machine → Outcome
  | extra, position, machine =>
    match tail.go position (machine.lookAt position) with
    | (true, after) => (true, after)
    | (false, after) =>
      let (found, counted) :=
        test.count text (some 1) position (after.giveBack inLoop machine.marks)
      match found, extra with
      | 0, _ => (false, counted)
      | _ + 1, 0 => (false, counted)
      | _ + 1, extra + 1 => reachOut text inLoop tail test extra (position + 1) counted

def loopChar (text : Codes) (inLoop : Bool) (tail : Rest) (least : Nat) (most : Option Nat)
    (greed : Greed) (test : CharTest) (position : Nat) (machine : Machine) : Outcome :=
  if text.size < position + least then (false, machine)
  else
    match greed with
    | .greedy =>
      let (found, counted) := test.count text most position machine
      if found < least then (false, counted)
      else backOff text inLoop tail position least (found - least) counted
    | .possessive =>
      let (found, counted) := test.count text most position machine
      if found < least then (false, counted) else tail.go (position + found) counted
    | .lazy =>
      let (found, counted) :=
        if least = 0 then (0, machine.lookAt position)
        else test.count text (some least) position machine
      if found < least then (false, counted)
      else
        let left := text.size - (position + least)
        let extra := (most.map (· - least)).getD left
        reachOut text inLoop tail test (min extra left) (position + least) counted

/-! ## Repetitions of a part -/

/-- One round of a repetition, with what comes after it. -/
abbrev Round := Continuation → Continuation

/-- A failed run looks back at where it began. -/
def Outcome.orLookAt (position : Nat) : Outcome → Outcome
  | (true, machine) => (true, machine)
  | (false, machine) => (false, machine.lookAt position)

/-- Rounds of a greedy repetition: `least` more that have to be made, then `most` more that may,
as many as possible first.  No round that may be made begins where the one before it began;
`rounds` bounds their number. -/
def greedyLoop (round : Round) (tail : Continuation) :
    Nat → Nat → Option Nat → Option Nat → Continuation
  | 0, _, _, _, position, machine => (false, machine.lookAt position)
  | rounds + 1, least + 1, most, began, position, machine =>
    (round (greedyLoop round tail rounds least most began) position
      (machine.lookAt position)).orLookAt position
  | rounds + 1, 0, most, began, position, machine =>
    let here := machine.lookAt position
    let tried :=
      if most = some 0 ∨ began = some position then (false, here)
      else
        match round (greedyLoop round tail rounds 0 (most.map (· - 1)) (some position)) position
            here with
        | (true, after) => (true, after)
        | (false, _) => (false, here)
    match tried with
    | (true, after) => (true, after)
    | (false, here) => (tail position here).orLookAt position

/-- Rounds of a lazy repetition, as few as possible first.  `inLoop` tells whether the repetition
is inside another. -/
def lazyLoop (inLoop : Bool) (round : Round) (tail : Continuation) :
    Nat → Nat → Option Nat → Option Nat → Continuation
  | 0, _, _, _, position, machine => (false, machine.lookAt position)
  | rounds + 1, least + 1, most, began, position, machine =>
    (round (lazyLoop inLoop round tail rounds least most began) position
      (machine.lookAt position)).orLookAt position
  | rounds + 1, 0, most, began, position, machine =>
    match tail position (machine.lookAt position) with
    | (true, after) => (true, after)
    | (false, after) =>
      let here := (after.giveBack inLoop machine.marks).lookAt position
      if most = some 0 ∨ began = some position then (false, here)
      else
        (round (lazyLoop inLoop round tail rounds 0 (most.map (· - 1)) (some position)) position
          here).orLookAt position

def finalRounds (round : Continuation) : Nat → Machine → Outcome
  | 0, machine => (true, machine)
  | count + 1, machine =>
    match round machine.last machine with
    | (true, after) => finalRounds round count after
    | (false, after) => (false, after)

/-- Rounds that may be made, each of them final.  The round that fails gives back its marks, and
its position where the release does so. -/
def furtherRounds (release : Release) (round : Continuation) :
    Nat → Option Nat → Option Nat → Machine → Machine
  | 0, _, _, machine => machine
  | rounds + 1, most, began, machine =>
    if most = some 0 ∨ began = some machine.last then machine
    else
      match round machine.last machine with
      | (true, after) =>
        furtherRounds release round rounds (most.map (· - 1)) (some machine.last) after
      | (false, after) =>
        if release.restoresPosition then machine else { after with marks := machine.marks }

/-- A bound for the rounds that a repetition can make in a text of `size` characters. -/
def roundBound (least size : Nat) : Nat :=
  least + (size + 2) * (size + 2)

def loopPart (release : Release) (text : Codes) (inLoop : Bool) (tail : Continuation)
    (least : Nat) (most : Option Nat) (greed : Greed) (round : Round) (position : Nat)
    (machine : Machine) : Outcome :=
  let rounds := roundBound least text.size
  let extra := most.map (· - least)
  match greed with
  | .greedy => greedyLoop round tail rounds least extra none position machine
  | .lazy => lazyLoop inLoop round tail rounds least extra none position machine
  | .possessive =>
    match finalRounds (round finish) least (machine.lookAt position) with
    | (false, after) => (false, after.lookAt position)
    | (true, after) =>
      let after := furtherRounds release (round finish) rounds extra none after
      tail after.last after

/-! ## Programs -/

/-- Run a program from a position.  `inLoop` tells whether it is inside a repetition that may give
back rounds. -/
def Code.run (release : Release) (text : Codes) : Code → Bool → Rest → Continuation
  | .done, _, rest, position, machine => rest.go position machine
  | .jump, _, rest, position, machine => rest.go position machine
  | .never, _, _, _, machine => (false, machine)
  | .char test next, inLoop, rest, position, machine =>
    if test.passes text position then next.run release text inLoop rest (position + 1) machine
    else (false, machine)
  | .place at_ flags next, inLoop, rest, position, machine =>
    if at_.isAt flags text position then next.run release text inLoop rest position machine
    else (false, machine)
  | .mark index next, inLoop, rest, position, machine =>
    next.run release text inLoop rest position (machine.setMark index position)
  | .reference index flags next, inLoop, rest, position, machine =>
    match machine.capture? (index - 1) with
    | some (start, stop) =>
      if repeatsAt flags text (stop - start) start position then
        next.run release text inLoop rest (position + (stop - start)) machine
      else (false, machine)
    | none => (false, machine)
  | .branch first others next, inLoop, rest, position, machine =>
    let after : Rest :=
      .blind fun position machine => next.run release text inLoop rest position machine
    let tried :=
      if first.isPassedOver text position then (false, machine)
      else
        match first.run release text inLoop after position (machine.lookAt position) with
        | (true, left) => (true, left)
        | (false, left) => (false, left.giveBack inLoop machine.marks)
    match tried with
    | (true, left) => (true, left)
    | (false, left) => others.run release text inLoop after position left
  | .loopChar least most greed test next, inLoop, rest, position, machine =>
    let tail : Rest := ⟨next.literal? rest.literal,
      fun position machine => next.run release text inLoop rest position machine⟩
    Pattern.loopChar text inLoop tail least most greed test position machine
  | .loop least most greed body next, inLoop, rest, position, machine =>
    let tail : Continuation :=
      fun position machine => next.run release text inLoop rest position machine
    let isInner := inLoop || greed != .possessive
    let round : Round := fun after position machine =>
      body.run release text isInner (.blind after) position machine
    loopPart release text inLoop tail least most greed round position machine
  | .atomic body next, inLoop, rest, position, machine =>
    match body.run release text inLoop (.blind finish) position (machine.lookAt position) with
    | (true, after) => next.run release text inLoop rest after.last after
    | (false, after) => (false, after.lookAt position)
  | .look negated back body next, inLoop, rest, position, machine =>
    if position < back then
      if negated then next.run release text inLoop rest position machine else (false, machine)
    else
      match body.run release text inLoop (.blind finish) (position - back)
          (machine.lookAt (position - back)) with
      | (true, after) =>
        if negated then (false, after) else next.run release text inLoop rest position after
      | (false, after) =>
        if negated then
          next.run release text inLoop rest position (after.giveBack inLoop machine.marks)
        else (false, after)
  | .ifCaptured index yes no next, inLoop, rest, position, machine =>
    let after : Rest := ⟨next.literal? rest.literal,
      fun position machine => next.run release text inLoop rest position machine⟩
    if (machine.capture? (index - 1)).isSome then yes.run release text inLoop after position machine
    else no.run release text inLoop after position machine

/-! ## Searching -/

/-- Why a search has no answer. -/
inductive SearchError where
  /-- A capture of the match ends before it starts. -/
  | crossedCapture
  deriving DecidableEq, Repr

/-- Whether a program matches from one of `count + 1` positions in a row, the first at
`position`. -/
def Program.foundFrom (program : Program) (release : Release) (text : Codes) :
    Nat → Nat → Except SearchError Bool
  | count, position =>
    let mayBegin := match program.start with
      | .oneOf chosen => (text[position]?.map chosen.contains).getD false
      | _ => true
    let found := if mayBegin then
        program.code.run release text false (.blind finish) position ⟨position, #[]⟩
      else (false, ⟨position, #[]⟩)
    match found, count with
    | (true, machine), _ => if machine.isCrossed then .error .crossedCapture else .ok true
    | (false, _), 0 => .ok false
    | (false, _), count + 1 => program.foundFrom release text count (position + 1)

/-- Whether a program matches somewhere in a text.  Texts shorter than any match are not
searched, nor is the end of a text where too little is left, unless the first character decides
where to look. -/
def Program.isFoundIn (program : Program) (release : Release) (text : Codes) :
    Except SearchError Bool :=
  if text.size < program.least then .ok false
  else
    match program.start with
    | .unknown => program.foundFrom release text (text.size - (program.least - 1)) 0
    | _ => program.foundFrom release text text.size 0

end RecordSchema.Pattern
