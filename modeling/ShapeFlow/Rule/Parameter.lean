import ShapeFlow.Rule.Basic
import ShapeFlow.Text.Blank

/-!
Parameters read as numbers or lists of numbers. Blanks around a number do not count, nor do the
blank items of a list; a text that is no such number or list is refused with its full text.
-/

namespace ShapeFlow.Rule

variable {α : Type}

/-- The items of a comma separated text that are not blank. -/
def listItems (text : List Char) : List (List Char) :=
  ((text.splitOn ',').map Text.trim).filter fun item => !item.isEmpty

def parseList (parse : List Char → Option α) (name value : String) : Except RuleError (List α) :=
  match (listItems value.toList).mapM parse with
  | some items => .ok items
  | none => .error (.invalidParameter name value)

def parseScalar (parse : List Char → Option α) (name value : String) : Except RuleError α :=
  match parse (Text.trim value.toList) with
  | some item => .ok item
  | none => .error (.invalidParameter name value)

def list? (parse : List Char → Option α) (params : Params) (name : String) :
    Except RuleError (Option (List α)) :=
  match params.get? name with
  | none => .ok none
  | some value => some <$> parseList parse name value

def scalar? (parse : List Char → Option α) (params : Params) (name : String) :
    Except RuleError (Option α) :=
  match params.get? name with
  | none => .ok none
  | some value => some <$> parseScalar parse name value

def required (name : String) : Option α → Except RuleError α
  | some value => .ok value
  | none => .error (.missingParameter name)

/-- Refuses a parameter with the text it was given, empty if it was not given. -/
def invalid (params : Params) (name : String) : RuleError :=
  .invalidParameter name ((params.get? name).getD "")

end ShapeFlow.Rule
