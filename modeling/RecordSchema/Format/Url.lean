import RecordSchema.Format.Email
import RecordSchema.Text.Letters

/-!
# Web addresses

A web address is a scheme, an optional `www.`, a host, a point, one to six characters of a
suffix that ends at the edge of a word, and a path.
-/

namespace RecordSchema.Format

/-- The characters of the host in a web address. -/
def isAuthorityChar (c : Char) : Bool :=
  isPlainAlphanumeric c || "-@:%._+~#=".toList.contains c

def isSuffixChar (c : Char) : Bool :=
  isPlainAlphanumeric c || c == '(' || c == ')'

/-- The characters of the path, which may begin with a query or a fragment as well. -/
def isPathChar (c : Char) : Bool :=
  isPlainAlphanumeric c || "-()@:%_+.~#?&/=".toList.contains c

/-- Letters, numerals and the underscore make words. -/
def isWordChar (c : Char) : Bool :=
  Text.isLetterOrNumeral c || c == '_'

/-- Whether a word begins or ends between two neighbours. -/
def isWordEdge (left right : Option Char) : Bool :=
  (left.map isWordChar).getD false != (right.map isWordChar).getD false

/-- A suffix of this many characters, and a path. -/
def isSuffixAndPath (text : List Char) (width : Nat) : Bool :=
  let suffix := text.take width
  let path := text.drop width
  suffix.length == width && suffix.all isSuffixChar &&
    isWordEdge suffix.getLast? path.head? && path.all isPathChar

/-- A host, a point, a suffix and a path. -/
def isAuthorityAndPath (text : List Char) : Bool :=
  (cutsAt '.' text).any fun (host, rest) =>
    1 ≤ host.length && host.length ≤ 256 && host.all isAuthorityChar &&
      [1, 2, 3, 4, 5, 6].any (isSuffixAndPath rest)

def behind? (start : String) (text : List Char) : Option (List Char) :=
  if start.toList.isPrefixOf text then some (text.drop start.toList.length) else none

def isUrl (text : String) : Bool :=
  let isRest := fun rest : List Char =>
    isAuthorityAndPath rest || ((behind? "www." rest).map isAuthorityAndPath).getD false
  ((behind? "http://" text.toList).map isRest).getD false ||
    ((behind? "https://" text.toList).map isRest).getD false

end RecordSchema.Format
