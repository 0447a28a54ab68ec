import RecordSchema.Pattern.Escape
import RecordSchema.Text.Identifier

/-!
# Reading patterns

The reader goes down by recursive descent: alternatives, then sequences of items, then the
contents of brackets and groups.  Every step either takes a token or enters a group that began
with one, so a number of steps in proportion to the tokens is enough; the budget only bounds the
recursion.
-/

namespace RecordSchema.Pattern

open Reader

/-! ## Flags -/

def flag? : Char → Option Flags
  | 'i' => some { ignoreCase := true }
  | 'm' => some { multiline := true }
  | 's' => some { dotAll := true }
  | 'x' => some { verbose := true }
  | 'a' => some { ascii := true }
  | 'u' => some { unicode := true }
  | 't' => some { template := true }
  | _ => none

/-- The flags that are turned off in a group, up to the colon. -/
def flagsOff : Nat → Flags → Reader Flags
  | 0, _ => malformed
  | budget + 1, off => do
    let some (.plain c) ← take | malformed
    let some flag := flag? c | malformed
    if flag.ascii || flag.unicode then malformed
    let off := off.union flag
    if ← accept ':' then return off else flagsOff budget off

/-- The flags that are turned on, with the character that ends them. -/
def flagsOn : Nat → Char → Flags → Reader (Flags × Char)
  | 0, _, _ => malformed
  | budget + 1, c, on => do
    let some flag := flag? c | malformed
    let on := on.union flag
    if on.ascii && on.unicode then malformed
    let some (.plain next) ← take | malformed
    if next = ')' ∨ next = '-' ∨ next = ':' then return (on, next)
    flagsOn budget next on

/-- What a group with flags turns out to be. -/
inductive FlagGroup where
  | whole
  | scope (on off : Flags)

/-- The flags of a group from the letter or hyphen that begins them. -/
def flagGroup (c : Char) : Reader FlagGroup := do
  let budget := (← get).tokens.length + 1
  let (on, ending) ← if c = '-' then pure (({} : Flags), '-') else flagsOn budget c {}
  if ending = ')' then
    modify fun progress => { progress with flags := progress.flags.union on }
    return .whole
  if on.template then malformed
  let off ← if ending = '-' then flagsOff budget {} else pure {}
  if off.template || on.overlaps off then malformed
  return .scope on off

/-! ## Repetitions -/

def repetitionCount (digits : List Char) : Reader Nat := do
  if Number.maxIntegerDigits < digits.length then throw .repetitionTooLong
  let count := Number.digitsValue digits
  if Width.limit ≤ count then throw .repetitionTooLarge
  return count

/-- The bounds of a repetition in braces, or none when the brace stands for itself. -/
def braceBounds : Reader (Option (Nat × Option Nat)) := do
  let start ← get
  if (← peek) = some (.plain '\x7d') then return none
  let all := start.tokens.length
  let low ← takeWhile all Number.isAsciiDigit
  let hasComma ← accept ','
  let high ← if hasComma then takeWhile all Number.isAsciiDigit else pure low
  if ← accept '\x7d' then
    let least ← if low.isEmpty then pure 0 else repetitionCount low
    if high.isEmpty then return some (least, none)
    let most ← repetitionCount high
    if most < least then malformed
    return some (least, some most)
  else
    set start
    return none

/-- The bounds that a repetition sign stands for; none when it stands for itself. -/
def repetitionBounds : Char → Reader (Option (Nat × Option Nat))
  | '?' => return some (0, some 1)
  | '*' => return some (0, none)
  | '+' => return some (1, none)
  | _ => braceBounds

/-- The sign behind a repetition that says how it chooses its length. -/
def greedSign : Reader Greed := do
  if ← accept '?' then return .lazy
  if ← accept '+' then return .possessive
  return .greedy

/-- Whether an item is a group that only holds together what is in it. -/
def plainGroup? : Tree → Option Tree
  | .flagged on off body .done => if on = {} ∧ off = {} then some body else none
  | _ => none

/-- Repeat the last item read.  Places and repetitions cannot be repeated. -/
def repeatLast (least : Nat) (most : Option Nat) : List Tree → Reader (List Tree)
  | [] => malformed
  | .atom (.place _) _ :: _ => malformed
  | .repetition _ _ _ _ _ :: _ => malformed
  | item :: items => do
    let greed ← greedSign
    return .repetition least most greed ((plainGroup? item).getD item) .done :: items

/-- The items of a sequence, given last first, as one tree. -/
def sequence (items : List Tree) : Tree :=
  items.foldl (fun tree item => ((plainGroup? item).getD item).append tree) .done

/-! ## Groups -/

/-- The capture that a condition asks about: by name, or by a number that is checked at the end
of the pattern. -/
def conditionCapture : Reader Nat := do
  let name ← takeName ')'
  let index ←
    if Text.isIdentifier name then
      match (← get).names.lookup name with
      | some index => pure index
      | none => malformed
    else
      match Number.readInt? name with
      | some (Int.ofNat (index + 1)) =>
        modify fun progress =>
          { progress with conditions := (index + 1) :: progress.conditions }
        pure (index + 1)
      | _ => malformed
  checkBehind index
  return index

def lookAround (behind negated : Bool) (body : Reader Tree) : Reader Tree := do
  let outer := (← get).behindFrom
  if behind ∧ outer.isNone then
    modify fun progress => { progress with behindFrom := some progress.groups }
  let inner ← body
  modify fun progress => { progress with behindFrom := outer }
  expect ')'
  return .look behind negated inner .done

mutual

/-- The alternatives up to a closing parenthesis or the end.  `top` tells whether this is the
whole pattern, whose flags may still turn on the verbose layout. -/
def branches (top : Bool) : Nat → Bool → Bool → Reader (List Tree)
  | 0, _, _ => malformed
  | budget + 1, verbose, first => do
    let branch ← items budget verbose (top && first) []
    if ← accept '|' then
      let verbose ← if top then verboseNow else pure verbose
      return branch :: (← branches top budget verbose false)
    else return [branch]

/-- The items of a sequence, those read so far being given last first.  `first` tells whether
flags for the whole pattern may stand here. -/
def items : Nat → Bool → Bool → List Tree → Reader Tree
  | 0, _, _, _ => malformed
  | budget + 1, verbose, first, done => do
    let atom := fun item => items budget verbose first (.atom item .done :: done)
    match ← peek with
    | none => return sequence done
    | some .dangling => malformed
    | some (.escaped c) =>
      skip
      atom (← escape c)
    | some (.plain c) =>
      if c = '|' ∨ c = ')' then return sequence done
      skip
      if verbose ∧ [' ', '\t', '\n', '\r', '\x0b', '\x0c'].contains c then
        items budget verbose first done
      else if verbose ∧ c = '#' then
        skipLine
        items budget verbose first done
      else if c = '.' then atom .any
      else if c = '^' then atom (.place .lineStart)
      else if c = '$' then atom (.place .lineEnd)
      else if c = '[' then atom (← bracketed)
      else if c = '?' ∨ c = '*' ∨ c = '+' ∨ c = '\x7b' then
        match ← repetitionBounds c with
        | none => atom (.code c.toNat)
        | some (least, most) => items budget verbose first (← repeatLast least most done)
      else if c = '(' then
        match ← group budget verbose (first && done.isEmpty) with
        | some tree => items budget verbose first (tree :: done)
        | none =>
          let verbose ← if first && done.isEmpty then verboseNow else pure verbose
          items budget verbose first done
      else atom (.code c.toNat)

/-- A group after its opening parenthesis; none for a comment or flags of the whole pattern. -/
def group : Nat → Bool → Bool → Reader (Option Tree)
  | 0, _, _ => malformed
  | budget + 1, verbose, first => do
    if ← accept '?' then
      let some (.plain c) ← take | malformed
      if c = 'P' then
        if ← accept '<' then
          let name ← takeName '>'
          if Text.isIdentifier name then captured budget verbose (some name) else malformed
        else if ← accept '=' then
          let name ← takeName ')'
          match (← get).names.lookup name with
          | some index => return some (.atom (← referenceTo index) .done)
          | none => malformed
        else malformed
      else if c = ':' then
        return some (.flagged {} {} (← enclosed budget verbose) .done)
      else if c = '#' then
        skipComment
        return none
      else if c = '=' ∨ c = '!' then
        return some (← lookAround false (c = '!') (inner budget verbose))
      else if c = '<' then
        let some (.plain c) ← take | malformed
        if c = '=' ∨ c = '!' then
          return some (← lookAround true (c = '!') (inner budget verbose))
        else malformed
      else if c = '(' then
        let index ← conditionCapture
        let yes ← deeper 1 (items budget verbose false [])
        let no ← if ← accept '|' then deeper 1 (items budget verbose false []) else pure .done
        expect ')'
        return some (.ifCaptured index yes no .done)
      else if c = '>' then
        return some (.atomic (← enclosed budget verbose) .done)
      else
        match ← flagGroup c with
        | .whole => if first then return none else malformed
        | .scope on off =>
          let body ← enclosed budget ((verbose || on.verbose) && !off.verbose)
          return some (.flagged on off body .done)
    else captured budget verbose none

/-- The body of a capture and its closing parenthesis. -/
def captured : Nat → Bool → Option String → Reader (Option Tree)
  | 0, _, _ => malformed
  | budget + 1, verbose, name => do
    let index ← openCapture name
    let body ← enclosed budget verbose
    closeCapture index body
    return some (.capture index body .done)

/-- The body of a group and its closing parenthesis. -/
def enclosed : Nat → Bool → Reader Tree
  | 0, _ => malformed
  | budget + 1, verbose => do
    let body ← inner budget verbose
    expect ')'
    return body

/-- The body of a group. -/
def inner : Nat → Bool → Reader Tree
  | 0, _ => malformed
  | budget + 1, verbose => do
    return Tree.alternation (← deeper 2 (branches false budget verbose true))

end

/-! ## Whole patterns -/

/-- A pattern that has been read: its tree, the flags in force, the number of captures, and their
widths. -/
structure Expression where
  tree : Tree
  flags : Flags
  groups : Nat
  captureWidths : List (Nat × Width)
  deriving DecidableEq, Repr

def readExpression (flags : Flags) (text : List Char) : Except PatternError Expression := do
  let tokens := tokensOf text
  let reader : Reader Tree := do
    goTo tokens
    return Tree.alternation (← branches true (5 * tokens.length + 10) flags.verbose true)
  let (tree, progress) ← reader.run { tokens := tokens, flags := flags }
  if progress.flags.ascii && progress.flags.unicode then throw .alphabetsConflict
  if !progress.tokens.isEmpty then throw .malformed
  if progress.conditions.any (progress.groups ≤ ·) then throw .malformed
  if progress.flags.template && tree.repeats then throw .malformed
  if !tree.looksBackFixed progress.closed then throw .malformed
  return ⟨tree, progress.flags, progress.groups - 1, progress.closed⟩

end RecordSchema.Pattern
