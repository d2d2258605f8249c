import TaskTree.KeyMap

namespace TaskTree

set_option autoImplicit false

inductive Number where
  | nat (n : Nat)
  | neg (n : Int)
  | float (bits : UInt64)
deriving DecidableEq, Inhabited

inductive Json where
  | null
  | bool (b : Bool)
  | num (n : Number)
  | str (s : String)
  | arr (items : List Json)
  | obj (fields : List (String × Json))
deriving Inhabited

namespace Number

def natLimit : Nat := Nat.pow 2 64

def ofInt (i : Int) : Number :=
  if 0 ≤ i then
    if i.toNat < natLimit then .nat i.toNat else .float (Float.ofNat i.toNat).toBits
  else if -(Nat.pow 2 63 : Int) ≤ i then .neg i
  else .float (-(Float.ofNat i.natAbs)).toBits

def toFloat : Number → Float
  | .nat n => Float.ofNat n
  | .neg n => -(Float.ofNat n.natAbs)
  | .float bits => Float.ofBits bits

def toNat? : Number → Option Nat
  | .nat n => some n
  | _ => none

def toInt? : Number → Option Int
  | .nat n => if n < Nat.pow 2 63 then some n else none
  | .neg n => some n
  | .float _ => none

end Number

namespace Json

def int (i : Int) : Json := .num (Number.ofInt i)

def nat (n : Nat) : Json := .num (Number.ofInt n)

def isNull : Json → Bool
  | .null => true
  | _ => false

def getStr? : Json → Option String
  | .str s => some s
  | _ => none

def getArr? : Json → Option (List Json)
  | .arr items => some items
  | _ => none

def getObj? : Json → Option (List (String × Json))
  | .obj fields => some fields
  | _ => none

def getBool? : Json → Option Bool
  | .bool b => some b
  | _ => none

def getNat? : Json → Option Nat
  | .num n => n.toNat?
  | _ => none

def getInt? : Json → Option Int
  | .num n => n.toInt?
  | _ => none

def field? (v : Json) (key : String) : Option Json :=
  match v with
  | .obj fields => KeyMap.find? fields key
  | _ => none

def mkObj (pairs : List (String × Json)) : Json :=
  .obj (KeyMap.ofList pairs)

def ofOption : Option Json → Json
  | some v => mkObj [("value", v)]
  | none => .null

def ofOptStr : Option String → Json
  | some s => .str s
  | none => .null

mutual

def depth : Json → Nat
  | .arr items => 1 + depthItems items
  | .obj fields => 1 + depthFields fields
  | _ => 0

def depthItems : List Json → Nat
  | [] => 0
  | v :: rest => max (depth v) (depthItems rest)

def depthFields : List (String × Json) → Nat
  | [] => 0
  | (_, v) :: rest => max (depth v) (depthFields rest)

end

end Json

end TaskTree
