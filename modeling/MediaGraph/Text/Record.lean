import MediaGraph.Text.Quoted

/-!
# Inspection texts

The one-line text of a value shown for inspection: a record as its name and its fields in braces,
a case with one part in parentheses, a map as its pairs in braces.
-/

namespace MediaGraph.Text

def braced (text : String) : String := "\x7b" ++ text ++ "\x7d"

def record (name : String) (fields : List (String × String)) : String :=
  name ++ " " ++ braced (" " ++ ", ".intercalate (fields.map fun (field, value) =>
    field ++ ": " ++ value) ++ " ")

def wrapped (name part : String) : String := name ++ "(" ++ part ++ ")"

def pairs (entries : List (String × String)) : String :=
  braced (", ".intercalate (entries.map fun (key, value) => key ++ ": " ++ value))

def truth (value : Bool) : String := if value then "true" else "false"

end MediaGraph.Text
