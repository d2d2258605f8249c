import TaskTree.Json.Value
import TaskTree.Decimal.Shortest

namespace TaskTree

set_option autoImplicit false

structure FloatNotation where
  minPositional : Int
  maxPositional : Int
  plusMark : String
  wholeSuffix : String

def Number.notation : FloatNotation := ⟨-5, 15, "+", ".0"⟩

def zeros (n : Nat) : String := String.ofList (List.replicate n '0')

def FloatNotation.render (style : FloatNotation) (negative : Bool) (d : Decimal.Scientific) :
    String :=
  let sign := if negative then "-" else ""
  if d.significand = 0 then sign ++ "0" ++ style.wholeSuffix
  else
    let digits := toString d.significand
    let len := digits.length
    let lead := d.exponent + len - 1
    if style.minPositional ≤ lead ∧ lead ≤ style.maxPositional then
      if 0 ≤ d.exponent then sign ++ digits ++ zeros d.exponent.toNat ++ style.wholeSuffix
      else if 0 ≤ lead then
        let whole := (lead + 1).toNat
        sign ++ String.ofList (digits.toList.take whole) ++ "." ++
          String.ofList (digits.toList.drop whole)
      else sign ++ "0." ++ zeros (-lead - 1).toNat ++ digits
    else
      let first := String.ofList (digits.toList.take 1)
      let rest := String.ofList (digits.toList.drop 1)
      let mantissa := if rest.isEmpty then first else first ++ "." ++ rest
      let mark := if 0 ≤ lead then style.plusMark ++ toString lead.toNat
        else "-" ++ toString (-lead).toNat
      sign ++ mantissa ++ "e" ++ mark

def Number.text : Number → String
  | .nat n => toString n
  | .neg n => toString n
  | .float bits =>
    let (negative, d) := Decimal.ofBits bits
    Number.notation.render negative d

def hexDigit (n : Nat) : Char :=
  if n < 10 then Char.ofNat (48 + n) else Char.ofNat (87 + n)

def escapeChar (c : Char) : String :=
  if c = '"' then "\\\""
  else if c = '\\' then "\\\\"
  else if c = '\n' then "\\n"
  else if c = '\t' then "\\t"
  else if c = '\r' then "\\r"
  else if c.toNat = 8 then "\\b"
  else if c.toNat = 12 then "\\f"
  else if c.toNat < 32 then
    "\\u00" ++ String.singleton (hexDigit (c.toNat / 16)) ++
      String.singleton (hexDigit (c.toNat % 16))
  else String.singleton c

def quote (s : String) : String :=
  s.foldl (fun acc c => acc ++ escapeChar c) "\"" ++ "\""

namespace Json

mutual

def writeTo (acc : String) : Json → String
  | .null => acc ++ "null"
  | .bool b => acc ++ (if b then "true" else "false")
  | .num n => acc ++ n.text
  | .str s => acc ++ quote s
  | .arr items => writeItems (acc ++ "[") true items ++ "]"
  | .obj fields => writeFields (acc ++ "\x7b") true fields ++ "\x7d"

def writeItems (acc : String) (first : Bool) : List Json → String
  | [] => acc
  | v :: rest =>
    let acc := if first then acc else acc ++ ","
    writeItems (writeTo acc v) false rest

def writeFields (acc : String) (first : Bool) : List (String × Json) → String
  | [] => acc
  | (k, v) :: rest =>
    let acc := if first then acc else acc ++ ","
    writeFields (writeTo (acc ++ quote k ++ ":") v) false rest

end

def compact (v : Json) : String := writeTo "" v

end Json

end TaskTree
