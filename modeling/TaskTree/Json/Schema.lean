import TaskTree.Json.DecodeError

namespace TaskTree.Json

set_option autoImplicit false

inductive Schema where
  | any
  | text
  | flag
  | size
  | optional (inner : Schema)
  | seq (item : Schema)
  | map
  | record (name : String) (fields : List (String × Schema)) (defaults : Bool)
  | variant
  | again
deriving Inhabited

namespace Schema

def expecting : Schema → String
  | .any => "any valid JSON value"
  | .text => "a string"
  | .flag => "a boolean"
  | .size => "usize"
  | .optional inner => "option of " ++ inner.expecting
  | .seq _ => "a sequence"
  | .map => "a map"
  | .record name _ _ => "struct " ++ name
  | .variant => "string or map"
  | .again => "the outer shape"

def mayBeAbsent : Schema → Bool
  | .optional _ => true
  | _ => false

def wrongType (v : Json) (expected : String) : DecodeError :=
  { fault := .invalidType (Unexpected.ofJson v) expected }

def firstMissing (fields : List (String × Schema)) (given : List (String × Json)) :
    Option String :=
  (fields.find? fun (name, sch) => !sch.mayBeAbsent && !(KeyMap.contains given name)).map (·.1)

def collect : List (Except DecodeError Json) → Except DecodeError (List Json)
  | [] => .ok []
  | .error e :: _ => .error e
  | .ok v :: rest => (collect rest).map (v :: ·)

mutual

def ofValue (root : Schema) (fuel : Nat) (sch : Schema) (v : Json) : Except DecodeError Json :=
  match fuel with
  | 0 => .error { fault := .malformed .recursionLimit }
  | fuel + 1 =>
    match sch, v with
    | .any, v => .ok v
    | .text, .str s => .ok (.str s)
    | .text, v => .error (wrongType v "a string")
    | .flag, .bool b => .ok (.bool b)
    | .flag, v => .error (wrongType v "a boolean")
    | .size, .num (.nat n) => .ok (.num (.nat n))
    | .size, .num (.neg i) => .error { fault := .invalidValue (.signed i) "usize" }
    | .size, v => .error (wrongType v "usize")
    | .optional _, .null => .ok .null
    | .optional inner, v => ofValue root fuel inner v
    | .seq item, .arr items => (collect (ofItems root fuel item items)).map .arr
    | .seq _, v => .error (wrongType v "a sequence")
    | .map, .obj fields => .ok (.obj fields)
    | .map, v => .error (wrongType v "a map")
    | .record _ fields defaults, .obj given =>
      (ofMembers root fuel fields given).bind fun read =>
        if defaults then .ok (.obj read)
        else match firstMissing fields read with
          | some missing => .error { fault := .missingField missing }
          | none => .ok (.obj read)
    | .record name fields defaults, .arr items =>
      ofPositions root fuel name fields defaults 0 fields.length items [] |>.map .obj
    | .record name _ _, v => .error (wrongType v ("struct " ++ name))
    | .variant, .str s => .ok (.str s)
    | .variant, .obj [(name, .null)] => .ok (.str name)
    | .variant, .obj [(_, other)] => .error (wrongType other "unit")
    | .variant, .obj _ => .error { fault := .invalidValue .map "map with a single key" }
    | .variant, v => .error (wrongType v "string or map")
    | .again, v => ofValue root fuel root v

def ofItems (root : Schema) (fuel : Nat) (item : Schema) :
    List Json → List (Except DecodeError Json)
  | [] => []
  | v :: rest => ofValue root fuel item v :: ofItems root fuel item rest

def ofMembers (root : Schema) (fuel : Nat) (fields : List (String × Schema)) :
    List (String × Json) → Except DecodeError (List (String × Json))
  | [] => .ok []
  | (k, v) :: rest =>
    match fields.lookup k with
    | none => ofMembers root fuel fields rest
    | some sch =>
      (ofValue root fuel sch v).bind fun read =>
        (ofMembers root fuel fields rest).map fun others => KeyMap.insert others k read

def ofPositions (root : Schema) (fuel : Nat) (name : String)
    (fields : List (String × Schema)) (defaults : Bool) (index total : Nat) :
    List Json → List (String × Json) → Except DecodeError (List (String × Json))
  | items, acc =>
    match fields, items with
    | [], [] => .ok acc
    | [], _ :: _ =>
      .error { fault := .invalidLength (index + items.length) "fewer elements in array" }
    | (_, _) :: rest, [] =>
      if defaults then ofPositions root fuel name rest defaults (index + 1) total [] acc
      else
        let expected := "struct " ++ name ++ " with " ++ toString total ++ " elements"
        .error { fault := .invalidLength index expected }
    | (fname, sch) :: rest, v :: more =>
      (ofValue root fuel sch v).bind fun read =>
        ofPositions root fuel name rest defaults (index + 1) total more
          (KeyMap.insert acc fname read)

end

end Schema

end TaskTree.Json
