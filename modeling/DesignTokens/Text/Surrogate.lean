/-! Halves of surrogate pairs. They are no characters: one that is read alone leaves
the replacement character, so that texts with other halves are not told apart and
what could not be printed is printed. -/
namespace DesignTokens.Text

def isHighSurrogate (unit : Nat) : Bool := 0xd800 ≤ unit ∧ unit < 0xdc00

def isLowSurrogate (unit : Nat) : Bool := 0xdc00 ≤ unit ∧ unit < 0xe000

def isSurrogate (unit : Nat) : Bool := isHighSurrogate unit || isLowSurrogate unit

def replacement : Char := '\ufffd'

end DesignTokens.Text
