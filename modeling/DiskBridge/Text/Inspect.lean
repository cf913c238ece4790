import DiskBridge.Text.Unprintable

/-!
# Inspection text

The structural text of a value, as shown in diagnostics: a name, then fields in braces or
arguments in parentheses, with texts quoted.
-/

namespace DiskBridge.Inspect

/-- One character of a quoted text. -/
def escape (c : Char) : String :=
  if c = '"' then "\\\""
  else if c = '\\' then "\\\\"
  else if c = '\n' then "\\n"
  else if c = '\r' then "\\r"
  else if c = '\t' then "\\t"
  else if c.toNat = 0 then "\\0"
  else if isUnprintable c then
    "\\u\x7b" ++ String.ofList (Nat.toDigits 16 c.toNat) ++ "\x7d"
  else c.toString

/-- A text in double quotes. -/
def quoted (text : String) : String := "\"" ++ String.join (text.toList.map escape) ++ "\""

/-- `Name { field: value, ... }`. -/
def record (name : String) (fields : List (String × String)) : String :=
  name ++ " \x7b " ++ ", ".intercalate (fields.map fun (field, value) => field ++ ": " ++ value)
    ++ " \x7d"

/-- `Name(value, ...)`. -/
def tuple (name : String) (values : List String) : String :=
  name ++ "(" ++ ", ".intercalate values ++ ")"

def option (shown : α → String) : Option α → String
  | none => "None"
  | some value => tuple "Some" [shown value]

def result (shownError : ε → String) (shown : α → String) : Except ε α → String
  | .ok value => tuple "Ok" [shown value]
  | .error error => tuple "Err" [shownError error]

def unit : String := "()"

end DiskBridge.Inspect
