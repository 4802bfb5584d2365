/-! Patterns of text. A pattern takes what it describes off the start of a text and
gives every rest that this can leave. -/
namespace DesignTokens.Text

abbrev Pattern := List Char → List (List Char)

namespace Pattern

def one (isMember : Char → Bool) : Pattern
  | c :: rest => if isMember c then [rest] else []
  | [] => []

def char (c : Char) : Pattern := one (· = c)

def word (w : String) : Pattern := fun s =>
  if w.toList.isPrefixOf s then [s.drop w.length] else []

/-- Any number of such characters. -/
def many (isMember : Char → Bool) : Pattern
  | c :: rest => if isMember c then (c :: rest) :: many isMember rest else [c :: rest]
  | [] => [[]]

def sequence : List Pattern → Pattern
  | [], s => [s]
  | p :: rest, s => (p s).flatMap (sequence rest)

def anyOf (patterns : List Pattern) : Pattern := fun s => patterns.flatMap (· s)

def optional (p : Pattern) : Pattern := fun s => s :: p s

def upTo (p : Pattern) : (times : Nat) → Pattern
  | 0, s => [s]
  | times + 1, s => s :: (p s).flatMap (upTo p times)

/-- The pattern several times, but at least once. -/
def repeated (p : Pattern) : Pattern := fun s => (p s).flatMap (upTo p s.length)

/-- Whether the pattern describes all of a text, up to a line break at its end. -/
def describes (p : Pattern) (s : List Char) : Bool :=
  (p s).any fun rest => rest = [] ∨ rest = ['\n']

end Pattern

end DesignTokens.Text
