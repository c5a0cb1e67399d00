import Router.Json.Number
import Router.Json.Text
import Router.Text

/-!
JSON values: how reports name them, and how they are written with two blanks of indent for each level.
-/

set_option autoImplicit false
set_option relaxedAutoImplicit false

namespace Router.Json

/-- A JSON value. The members of an object keep their order. -/
inductive Value
  | null
  | boolean (b : Bool)
  | number (n : Number)
  | string (s : String)
  | list (items : List Value)
  | object (members : List (String × Value))

/-- How a report names a value of the wrong type. -/
def Value.found : Value → String
  | null => "null"
  | boolean b => s!"boolean `{b}`"
  | number (.integer n) => s!"integer `{n}`"
  | number (.float negative x) => "floating point `" ++ floatNotation.text negative x ++ "`"
  | string s => "string " ++ Text.quoted s
  | list _ => "sequence"
  | object _ => "map"

def Number.text : Number → String
  | integer n => toString n
  | float negative x => floatNotation.text negative x

def newLine (level : Nat) : List Char := '\n' :: List.replicate (2 * level) ' '

mutual

/-- A value as a text, at a level of indent. -/
def Value.write (level : Nat) : Value → List Char
  | .null => ['n', 'u', 'l', 'l']
  | .boolean true => ['t', 'r', 'u', 'e']
  | .boolean false => ['f', 'a', 'l', 's', 'e']
  | .number n => n.text.toList
  | .string s => writeString s
  | .list [] => ['[', ']']
  | .list (item :: items) =>
    '[' :: newLine (level + 1) ++ item.write (level + 1) ++ writeItems (level + 1) items ++
      newLine level ++ [']']
  | .object [] => ['{', '}']
  | .object ((key, item) :: members) =>
    '{' :: newLine (level + 1) ++ writeString key ++ ':' :: ' ' :: item.write (level + 1) ++
      writeMembers (level + 1) members ++ newLine level ++ ['}']

/-- The items of a list after the first. -/
def writeItems (level : Nat) : List Value → List Char
  | [] => []
  | item :: items => ',' :: newLine level ++ item.write level ++ writeItems level items

def writeMembers (level : Nat) : List (String × Value) → List Char
  | [] => []
  | (key, item) :: members =>
    ',' :: newLine level ++ writeString key ++ ':' :: ' ' :: item.write level ++
      writeMembers level members

end

def Value.text (v : Value) : String := String.ofList (v.write 0)

end Router.Json
