/-! Enumerations whose members have text values. -/

namespace Python

/-- `Class(text)`: look a member up by its value. `valueError` is the exception raised. -/
def parseEnum {ε α : Type} (valueError : String → ε) (className : String) (value : α → String)
    (members : List α) (text : String)
    : Except ε α :=
  match members.find? (fun item => value item == text) with
  | some item => .ok item
  | none => .error (valueError ("'" ++ text ++ "' is not a valid " ++ className))

end Python
