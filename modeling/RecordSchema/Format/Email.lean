/-!
# Mail addresses

A mail address is a local part, an at sign, a host, a point, and a suffix of at least two
letters.  The host may hold points itself, so every point is tried as the one before the suffix.
-/

namespace RecordSchema.Format

/-- Every way to cut a list at an occurrence of `mark`, which belongs to neither side. -/
def cutsAt (mark : Char) : List Char → List (List Char × List Char)
  | [] => []
  | c :: rest =>
    let later := (cutsAt mark rest).map fun (before, after) => (c :: before, after)
    if c = mark then ([], rest) :: later else later

def isPlainLetter (c : Char) : Bool :=
  (65 ≤ c.toNat && c.toNat ≤ 90) || (97 ≤ c.toNat && c.toNat ≤ 122)

def isPlainAlphanumeric (c : Char) : Bool :=
  isPlainLetter c || (48 ≤ c.toNat && c.toNat ≤ 57)

def isLocalChar (c : Char) : Bool :=
  isPlainAlphanumeric c || c == '.' || c == '_' || c == '%' || c == '+' || c == '-'

def isHostChar (c : Char) : Bool :=
  isPlainAlphanumeric c || c == '.' || c == '-'

/-- A host, a point, and a suffix. -/
def isDomain (domain : List Char) : Bool :=
  (cutsAt '.' domain).any fun (host, suffix) =>
    !host.isEmpty && host.all isHostChar && 2 ≤ suffix.length && suffix.all isPlainLetter

def isEmail (text : String) : Bool :=
  (cutsAt '@' text.toList).any fun (localPart, domain) =>
    !localPart.isEmpty && localPart.all isLocalChar && isDomain domain

end RecordSchema.Format
