/-! Rows of fields as text. A field that holds the delimiter, a quote or a line
break is quoted, and a quote inside it is written twice. A single empty field is
quoted too, which tells its row from one without fields. -/
namespace DesignTokens.Csv

def needsQuotes (delimiter c : Char) : Bool := c = delimiter ∨ c = '"' ∨ c = '\r' ∨ c = '\n'

def doubled : List Char → List Char
  | [] => []
  | c :: rest => if c = '"' then '"' :: '"' :: doubled rest else c :: doubled rest

def quoted (field : List Char) : List Char := '"' :: doubled field ++ ['"']

def fieldText (delimiter : Char) (field : List Char) : List Char :=
  if field.any (needsQuotes delimiter) then quoted field else field

def rowEnd : List Char := ['\r', '\n']

def rowText (delimiter : Char) : List (List Char) → List Char
  | [[]] => quoted [] ++ rowEnd
  | fields => List.intercalate [delimiter] (fields.map (fieldText delimiter)) ++ rowEnd

def print (delimiter : Char) (rows : List (List String)) : String :=
  String.ofList (rows.flatMap fun fields => rowText delimiter (fields.map String.toList))

end DesignTokens.Csv
