import Toolwrap.Text.Bytes
import Toolwrap.Value
/-!
Writing values as YAML on one line each: texts between double quotes, collections in flow style, so
that reading gives back the same value. A collection that is a part of itself is written as a text
there.
-/
namespace Toolwrap.Yaml

/-- A character between double quotes. -/
def quotedChar (c : Char) : List Char :=
  if c == '\x22' || c == '\\' then ['\\', c]
  else if 0x20 ≤ c.toNat && c.toNat < 0x7F then [c]
  else if let some n := Text.surrogate? c then '\\' :: 'u' :: Text.hexField 4 n
  else '\\' :: 'U' :: Text.hexField 8 c.toNat

def quotedText (s : String) : String :=
  "\"" ++ String.ofList (s.toList.flatMap quotedChar) ++ "\""

/-- Doubles have a point in front of their exponent, or they would be read as text. -/
def doubleText (x : Double) : String :=
  match x with
  | .nan => ".nan"
  | .infinite true => "-.inf"
  | .infinite false => ".inf"
  | .finite _ _ _ =>
    let text := Scalar.showDouble x
    let (digits, exponent) := (text.toList.takeWhile (· != 'e'), text.toList.dropWhile (· != 'e'))
    if '.' ∈ digits then text
    else String.ofList (digits ++ ".0".toList ++ exponent)

def scalarText : Scalar → String
  | .null => "null"
  | .bool b => if b then "true" else "false"
  | .int n => toString n
  | .double x => doubleText x
  | .date y m d => Moment.showDay y m d
  | .moment m => m.display
  | .bytes content => "!!binary \"" ++ Text.toBase64 content ++ "\""
  | .text s => quotedText s

def isPair : Value → Bool
  | .pair _ _ => true
  | _ => false

mutual

def flow : Value → String
  | .scalar s => scalarText s
  | .list items =>
    (if items.any isPair then "!!pairs " else "") ++ "[" ++ ", ".intercalate (flowItems items) ++ "]"
  | .map fields => "\x7b" ++ ", ".intercalate (flowFields fields) ++ "\x7d"
  | .set members =>
    "!!set \x7b" ++ ", ".intercalate (members.map fun s => scalarText s ++ ": null") ++ "\x7d"
  | .pair first second => "\x7b" ++ flow first ++ ": " ++ flow second ++ "\x7d"
  | .loop mapping => quotedText (Value.loop mapping).quoted

def flowItems : List Value → List String
  | [] => []
  | v :: rest => flow v :: flowItems rest

def flowFields : List (Scalar × Value) → List String
  | [] => []
  | (k, v) :: rest => (scalarText k ++ ": " ++ flow v) :: flowFields rest

end

/-- A mapping with a field on each line. -/
def document (fields : Fields) : String :=
  "".intercalate (fields.map fun (k, v) => k.display ++ ": " ++ flow v ++ "\n")

end Toolwrap.Yaml
