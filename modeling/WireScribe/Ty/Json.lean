import WireScribe.JsonText.Quote
import WireScribe.Ty

/-!
# WireScribe.Ty.Json — types written as JSON

A scalar is its name. Any other type is an object with one key, the name of its
form: `list` and `set` hold the element type, `map` an object with `key` and
`value`, `struct` an object with `name`, and `named` the name itself.
-/

namespace WireScribe

/-- The characters of an object with one key. -/
def jsonObject (key : String) (content : List Char) : List Char :=
  '\x7b' :: (JsonText.quote key ++ ':' :: (content ++ ['\x7d']))

/-- The characters of a type in JSON. -/
def Ty.jsonChars : Ty → List Char
  | .scalar s => JsonText.quote s.name
  | .seq kind elem => jsonObject kind.name elem.jsonChars
  | .map key value =>
    jsonObject "map"
      ('\x7b' :: (JsonText.quote "key" ++ ':' :: (key.jsonChars ++
        ',' :: (JsonText.quote "value" ++ ':' :: (value.jsonChars ++ ['\x7d'])))))
  | .struct name => jsonObject "struct" (jsonObject "name" (JsonText.quote name))
  | .named name => jsonObject "named" (JsonText.quote name)

/-- A type in JSON. -/
def Ty.json (ty : Ty) : String := String.ofList ty.jsonChars

end WireScribe
