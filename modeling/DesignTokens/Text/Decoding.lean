/-! Text read from bytes: UTF-8 with every line break made a line feed. -/
namespace DesignTokens.Text

/-- A carriage return, with the line feed that may follow it, is one line break. -/
def withLineFeeds : List Char → List Char
  | [] => []
  | '\r' :: '\n' :: rest => '\n' :: withLineFeeds rest
  | '\r' :: rest => '\n' :: withLineFeeds rest
  | c :: rest => c :: withLineFeeds rest

def decode? (bytes : ByteArray) : Option (List Char) :=
  (String.fromUTF8? bytes).map fun s => withLineFeeds s.toList

end DesignTokens.Text
