import RecordSchema.Pattern.CharTest

/-!
# The syntax of patterns

Patterns are regular expressions with captures, references to captures, look-around, scoped
flags, and greedy, lazy and possessive repetition.  This module holds their syntax tree and the
range of lengths that a tree can match.

A tree is a sequence: every constructor but two holds one item and the tree that comes next.
-/

namespace RecordSchema.Pattern

/-- How a repetition chooses its length. -/
inductive Greed where
  | greedy
  | lazy
  | possessive
  deriving DecidableEq, Repr

/-- The places that match between characters. -/
inductive Place where
  | lineStart
  | lineEnd
  | textStart
  | textEnd
  | boundary
  | notBoundary
  deriving DecidableEq, Repr

/-- An item without parts. -/
inductive Atom where
  | code (value : Nat)
  | otherCode (value : Nat)
  | any
  | set (negated : Bool) (items : List SetItem)
  | place (at_ : Place)
  | reference (index : Nat)
  deriving DecidableEq, Repr

/-- The syntax tree of a pattern.  `most` is absent in a repetition without upper limit.  The
alternatives of a choice are a chain of choices that ends in `never`. -/
inductive Tree where
  | done
  | never
  | atom (item : Atom) (next : Tree)
  | choice (first others next : Tree)
  | repetition (least : Nat) (most : Option Nat) (greed : Greed) (body next : Tree)
  | capture (index : Nat) (body next : Tree)
  | flagged (on off : Flags) (body next : Tree)
  | atomic (body next : Tree)
  | look (behind negated : Bool) (body next : Tree)
  | ifCaptured (index : Nat) (yes no next : Tree)
  deriving DecidableEq, Repr

namespace Tree

def append : Tree → Tree → Tree
  | .done, rest => rest
  | .never, _ => .never
  | .atom item next, rest => .atom item (next.append rest)
  | .choice first others next, rest => .choice first others (next.append rest)
  | .repetition least most greed body next, rest =>
    .repetition least most greed body (next.append rest)
  | .capture index body next, rest => .capture index body (next.append rest)
  | .flagged on off body next, rest => .flagged on off body (next.append rest)
  | .atomic body next, rest => .atomic body (next.append rest)
  | .look behind negated body next, rest => .look behind negated body (next.append rest)
  | .ifCaptured index yes no next, rest => .ifCaptured index yes no (next.append rest)

def repeats : Tree → Bool
  | .done => false
  | .never => false
  | .atom _ next => next.repeats
  | .choice first others next => first.repeats || others.repeats || next.repeats
  | .repetition _ _ _ _ _ => true
  | .capture _ body next => body.repeats || next.repeats
  | .flagged _ _ body next => body.repeats || next.repeats
  | .atomic body next => body.repeats || next.repeats
  | .look _ _ body next => body.repeats || next.repeats
  | .ifCaptured _ yes no next => yes.repeats || no.repeats || next.repeats

/-! ## Alternatives -/

def behindAtom? (item : Atom) : Tree → Option Tree
  | .atom first next => if first = item then some next else none
  | _ => none

/-- The atoms that all alternatives begin with, and what is left of the alternatives. -/
def takeShared : Tree → List Tree → List Atom × List Tree
  | .atom item next, others =>
    match others.mapM (behindAtom? item) with
    | some rests =>
      let (shared, branches) := takeShared next rests
      (item :: shared, branches)
    | none => ([], .atom item next :: others)
  | first, others => ([], first :: others)

/-- The members of an alternative that is a single code point or a set. -/
def setItems? : Tree → Option (List SetItem)
  | .atom (.code value) .done => some [.code value]
  | .atom (.set false items) .done => some items
  | _ => none

/-- A choice between alternatives.  What they all begin with comes before the choice, and
alternatives that are all single characters or sets are one set. -/
def alternation : List Tree → Tree
  | [] => .never
  | [only] => only
  | first :: others =>
    let (shared, branches) := takeShared first others
    let choice := match branches.mapM setItems? with
      | some items => Tree.atom (.set false items.flatten.eraseDups) .done
      | none =>
        match branches with
        | [] => .done
        | first :: others =>
          .choice first (others.foldr (fun branch chain => .choice branch chain .done) .never)
            .done
    shared.foldr .atom choice

end Tree

/-! ## Widths -/

/-- The least and the greatest length of a match. -/
structure Width where
  least : Nat
  most : Nat
  deriving DecidableEq, Repr

namespace Width

/-- The greatest length there is; it also stands for having none, and for repeating without
limit. -/
def limit : Nat := 4294967295

def zero : Width := ⟨0, 0⟩

def add (left right : Width) : Width :=
  ⟨left.least + right.least, left.most + right.most⟩

def either (left right : Width) : Width :=
  ⟨min left.least right.least, max left.most right.most⟩

def times (least : Nat) (most : Option Nat) (width : Width) : Width :=
  ⟨least * width.least, most.getD limit * width.most⟩

def capped (width : Width) : Width :=
  ⟨min width.least (limit - 1), min width.most limit⟩

end Width

/-- The range of lengths of an atom, given those of the captures. -/
def Atom.width (captures : List (Nat × Width)) : Atom → Width
  | .place _ => .zero
  | .reference index => (captures.lookup index).getD .zero
  | _ => ⟨1, 1⟩

/-- The range of lengths that a tree can match, given those of the captures; only the widths of
its parts are within the limits. -/
def Tree.totalWidth (captures : List (Nat × Width)) : Tree → Width
  | .done => .zero
  | .never => ⟨Width.limit - 1, 0⟩
  | .atom item next => (item.width captures).add (next.totalWidth captures)
  | .choice first others next =>
    ((first.totalWidth captures).capped.either (others.totalWidth captures)).add
      (next.totalWidth captures)
  | .repetition least most _ body next =>
    ((body.totalWidth captures).capped.times least most).add (next.totalWidth captures)
  | .capture _ body next =>
    (body.totalWidth captures).capped.add (next.totalWidth captures)
  | .flagged _ _ body next =>
    (body.totalWidth captures).capped.add (next.totalWidth captures)
  | .atomic body next => (body.totalWidth captures).capped.add (next.totalWidth captures)
  | .look _ _ _ next => next.totalWidth captures
  | .ifCaptured _ yes no next =>
    ((yes.totalWidth captures).capped.either (no.totalWidth captures).capped).add
      (next.totalWidth captures)

/-- The range of lengths that a tree can match. -/
def Tree.width (captures : List (Nat × Width)) (tree : Tree) : Width :=
  (tree.totalWidth captures).capped

/-- Whether every look behind in a tree goes back over a fixed length. -/
def Tree.looksBackFixed (captures : List (Nat × Width)) : Tree → Bool
  | .done => true
  | .never => true
  | .atom _ next => next.looksBackFixed captures
  | .choice first others next =>
    first.looksBackFixed captures && others.looksBackFixed captures &&
      next.looksBackFixed captures
  | .repetition _ _ _ body next =>
    body.looksBackFixed captures && next.looksBackFixed captures
  | .capture _ body next => body.looksBackFixed captures && next.looksBackFixed captures
  | .flagged _ _ body next => body.looksBackFixed captures && next.looksBackFixed captures
  | .atomic body next => body.looksBackFixed captures && next.looksBackFixed captures
  | .look behind _ body next =>
    let width := body.width captures
    (!behind || width.least == width.most) && body.looksBackFixed captures &&
      next.looksBackFixed captures
  | .ifCaptured _ yes no next =>
    yes.looksBackFixed captures && no.looksBackFixed captures && next.looksBackFixed captures

end RecordSchema.Pattern
