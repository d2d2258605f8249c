import TaskTree.Json.Schema

namespace TaskTree.Json

set_option autoImplicit false

structure Cursor where
  rest : List Char
  left : Nat := rest.length
  line : Nat := 1
  column : Nat := 0
  depth : Nat := 128

def Cursor.peekPlace (c : Cursor) : Nat × Nat :=
  match c.rest with
  | '\n' :: _ => (c.line + 1, 0)
  | _ :: _ => (c.line, c.column + 1)
  | [] => (c.line, c.column)

def Cursor.advance (c : Cursor) : Cursor :=
  match c.rest with
  | [] => c
  | ch :: rest =>
    if ch = '\n' then { c with rest, left := c.left - 1, line := c.line + 1, column := 0 }
    else { c with rest, left := c.left - 1, column := c.column + ch.utf8Size }

def isGap (c : Char) : Bool := c = ' ' || c = '\n' || c = '\t' || c = '\r'

def Cursor.skipGap (c : Cursor) : Cursor :=
  let rec go (fuel : Nat) (c : Cursor) : Cursor :=
    match fuel with
    | 0 => c
    | fuel + 1 =>
      match c.rest with
      | ch :: _ => if isGap ch then go fuel c.advance else c
      | [] => c
  go c.left c

abbrev Reader := StateT Cursor (Except DecodeError)

namespace Reader

def failHere {α : Type} (f : DecodeFault) : Reader α := do
  let c ← get
  throw { fault := f, place := some (c.line, c.column) }

def failNext {α : Type} (f : SyntaxFault) : Reader α := do
  let c ← get
  throw { fault := .malformed f, place := some c.peekPlace }

def errorNext (f : SyntaxFault) : Reader DecodeError := do
  let c ← get
  pure { fault := .malformed f, place := some c.peekPlace }

def peek : Reader (Option Char) := do
  pure (← get).rest.head?

def bump : Reader Unit := modify Cursor.advance

def peekPastGap : Reader (Option Char) := do
  modify Cursor.skipGap
  peek

def next : Reader (Option Char) := do
  let c ← peek
  bump
  pure c

def word (rest : List Char) : Reader Unit :=
  rest.forM fun expected => do
    match ← next with
    | none => failHere (.malformed .eofValue)
    | some got => if got = expected then pure () else failHere (.malformed .expectedIdent)

def openNest : Reader Unit := do
  let c ← get
  if c.depth ≤ 1 then failNext .recursionLimit
  set { c with depth := c.depth - 1 }
  bump

def closeNest : Reader Unit := modify fun c => { c with depth := c.depth + 1 }

inductive Scanned where
  | nat (n : Nat)
  | neg (i : Int)
  | float (x : Float)

def Scanned.toJson : Scanned → Json
  | .nat n => .num (.nat n)
  | .neg i => .num (.neg i)
  | .float x => .num (.float x.toBits)

def Scanned.unexpected : Scanned → Unexpected
  | .nat n => .unsigned n
  | .neg i => .signed i
  | .float x => .float x.toBits

def pow10 (k : Nat) : Float := Float.ofScientific 1 false k

def wordMax : Nat := Nat.pow 2 64 - 1

def clampExponent (e : Int) : Int :=
  max (-(Nat.pow 2 31 : Int)) (min e (Nat.pow 2 31 - 1 : Nat))

def scale (significand : Nat) (exponent : Int) : Option Float :=
  let rec go (fuel : Nat) (f : Float) (e : Int) : Option Float :=
    match fuel with
    | 0 => some f
    | fuel + 1 =>
      if e.natAbs < 309 then
        if 0 ≤ e then
          let g := f * pow10 e.natAbs
          if g.isInf then none else some g
        else some (f / pow10 e.natAbs)
      else if f == 0 then some f
      else if 0 ≤ e then none
      else go fuel (f / pow10 308) (e + 308)
  go (exponent.natAbs / 308 + 2) (Float.ofNat significand) exponent

def floatOf (positive : Bool) (significand : Nat) (exponent : Int) : Reader Scanned := do
  match scale significand exponent with
  | some f => pure (.float (if positive then f else -f))
  | none => failHere (.malformed .numberOutOfRange)

def skipDigits (fuel : Nat) : Reader Unit := do
  match fuel with
  | 0 => pure ()
  | fuel + 1 =>
    match ← peek with
    | some c => if c.isDigit then do bump; skipDigits fuel else pure ()
    | none => pure ()

def exponentPart (positive : Bool) (significand : Nat) (start : Int) : Reader Scanned := do
  bump
  let positiveExp ← match ← peek with
    | some '+' => do bump; pure true
    | some '-' => do bump; pure false
    | _ => pure true
  let first ← match ← next with
    | none => failHere (.malformed .eofValue)
    | some c => if c.isDigit then pure (c.toNat - 48) else failHere (.malformed .invalidNumber)
  let rec more (fuel : Nat) (acc : Nat) : Reader (Option Nat) := do
    match fuel with
    | 0 => pure (some acc)
    | fuel + 1 =>
      match ← peek with
      | some c =>
        if c.isDigit then do
          bump
          let acc' := acc * 10 + (c.toNat - 48)
          if acc' > Nat.pow 2 31 - 1 then pure none else more fuel acc'
        else pure (some acc)
      | none => pure (some acc)
  let fuel := (← get).left
  match ← more fuel first with
  | some e =>
    let final := if positiveExp then clampExponent (start + e) else clampExponent (start - e)
    floatOf positive significand final
  | none =>
    if significand ≠ 0 ∧ positiveExp then failHere (.malformed .numberOutOfRange)
    else do
      skipDigits (← get).left
      pure (.float (if positive then 0.0 else -0.0))

def fractionPart (positive : Bool) (significand : Nat) (before : Int) : Reader Scanned := do
  bump
  let rec digits (fuel : Nat) (sig : Nat) (after : Int) (overflowed : Bool) :
      Reader (Nat × Int × Bool) := do
    match fuel with
    | 0 => pure (sig, after, overflowed)
    | fuel + 1 =>
      match ← peek with
      | some c =>
        if c.isDigit then
          if overflowed then do bump; digits fuel sig after true
          else
            let sig' := sig * 10 + (c.toNat - 48)
            if sig' > wordMax then do bump; digits fuel sig after true
            else do bump; digits fuel sig' (after - 1) false
        else pure (sig, after, overflowed)
      | none => pure (sig, after, overflowed)
  let (sig, after, overflowed) ← digits (← get).left significand 0 false
  if after = 0 ∧ !overflowed then
    match ← peek with
    | some _ => failNext .invalidNumber
    | none => failNext .eofValue
  else
    match ← peek with
    | some 'e' | some 'E' => exponentPart positive sig (before + after)
    | _ => floatOf positive sig (before + after)

def longPart (positive : Bool) (significand : Nat) : Reader Scanned := do
  let rec go (fuel : Nat) (exponent : Nat) : Reader Scanned := do
    match fuel with
    | 0 => floatOf positive significand exponent
    | fuel + 1 =>
      match ← peek with
      | some '.' => fractionPart positive significand exponent
      | some 'e' | some 'E' => exponentPart positive significand exponent
      | some c =>
        if c.isDigit then do
          bump
          go fuel (exponent + 1)
        else floatOf positive significand exponent
      | none => floatOf positive significand exponent
  go (← get).left 0

def integerEnd (positive : Bool) (significand : Nat) : Reader Scanned := do
  match ← peek with
  | some '.' => fractionPart positive significand 0
  | some 'e' | some 'E' => exponentPart positive significand 0
  | _ =>
    if positive then pure (.nat significand)
    else if significand = 0 then pure (.float (-0.0))
    else if significand ≤ Nat.pow 2 63 then pure (.neg (-(significand : Int)))
    else pure (.float (-(Float.ofNat significand)))

def number (positive : Bool) : Reader Scanned := do
  match ← next with
  | none => failHere (.malformed .eofValue)
  | some '0' =>
    match ← peek with
    | some c => if c.isDigit then failNext .invalidNumber else integerEnd positive 0
    | none => integerEnd positive 0
  | some c =>
    if c.isDigit then
      let rec go (fuel : Nat) (sig : Nat) : Reader Scanned := do
        match fuel with
        | 0 => integerEnd positive sig
        | fuel + 1 =>
          match ← peek with
          | some d =>
            if d.isDigit then
              let sig' := sig * 10 + (d.toNat - 48)
              if sig' > wordMax then longPart positive sig
              else do bump; go fuel sig'
            else integerEnd positive sig
          | none => integerEnd positive sig
      go (← get).left (c.toNat - 48)
    else failHere (.malformed .invalidNumber)

def hexValue (c : Char) : Option Nat :=
  if c.isDigit then some (c.toNat - 48)
  else if 'a' ≤ c ∧ c ≤ 'f' then some (c.toNat - 87)
  else if 'A' ≤ c ∧ c ≤ 'F' then some (c.toNat - 55)
  else none

def hexEscape : Reader Nat := do
  let c ← get
  match c.rest with
  | a :: b :: d :: e :: _ =>
    bump; bump; bump; bump
    match hexValue a, hexValue b, hexValue d, hexValue e with
    | some a, some b, some d, some e => pure (((a * 16 + b) * 16 + d) * 16 + e)
    | _, _, _, _ => failHere (.malformed .invalidEscape)
  | _ =>
    modify fun c => (List.range c.left).foldl (fun c _ => c.advance) c
    failHere (.malformed .eofString)

def nextInString : Reader Char := do
  match ← next with
  | some c => pure c
  | none => failHere (.malformed .eofString)

def peekInString : Reader Char := do
  match ← peek with
  | some c => pure c
  | none => failHere (.malformed .eofString)

def unicodeEscape : Reader Char := do
  let n ← hexEscape
  if 0xDC00 ≤ n ∧ n ≤ 0xDFFF then failHere (.malformed .loneSurrogate)
  else if n < 0xD800 ∨ 0xDBFF < n then pure (Char.ofNat n)
  else
    let cut : Reader Unit := do bump; failHere (.malformed .unexpectedEndOfHexEscape)
    if (← peekInString) = '\\' then bump else cut
    if (← peekInString) = 'u' then bump else cut
    let low ← hexEscape
    if low < 0xDC00 ∨ 0xDFFF < low then failHere (.malformed .loneSurrogate)
    else pure (Char.ofNat (((n - 0xD800) * 1024 + (low - 0xDC00)) + 0x10000))

def escape : Reader Char := do
  match ← nextInString with
  | '"' => pure '"'
  | '\\' => pure '\\'
  | '/' => pure '/'
  | 'b' => pure (Char.ofNat 8)
  | 'f' => pure (Char.ofNat 12)
  | 'n' => pure '\n'
  | 'r' => pure '\r'
  | 't' => pure '\t'
  | 'u' => unicodeEscape
  | _ => failHere (.malformed .invalidEscape)

def string : Reader String := do
  let rec go (fuel : Nat) (acc : String) : Reader String := do
    match fuel with
    | 0 => failHere (.malformed .eofString)
    | fuel + 1 =>
      match ← next with
      | none => failHere (.malformed .eofString)
      | some '"' => pure acc
      | some '\\' => do let c ← escape; go fuel (acc.push c)
      | some c =>
        if c.toNat < 32 then failHere (.malformed .controlCharacter) else go fuel (acc.push c)
  go ((← get).left + 1) ""

def moreItems (first : Bool) : Reader Bool := do
  match ← peekPastGap with
  | none => failNext .eofList
  | some ']' => pure false
  | some ',' =>
    if first then pure true
    else do
      bump
      match ← peekPastGap with
      | some ']' => failNext .trailingComma
      | some _ => pure true
      | none => failNext .eofValue
  | some _ => if first then pure true else failNext .expectedListCommaOrEnd

def moreMembers (first : Bool) : Reader Bool := do
  match ← peekPastGap with
  | none => failNext .eofObject
  | some '}' => pure false
  | some c =>
    if first then
      if c = '"' then pure true else failNext .keyMustBeString
    else if c = ',' then do
      bump
      match ← peekPastGap with
      | some '"' => pure true
      | some '}' => failNext .trailingComma
      | some _ => failNext .keyMustBeString
      | none => failNext .eofValue
    else failNext .expectedObjectCommaOrEnd

def colon : Reader Unit := do
  match ← peekPastGap with
  | some ':' => bump
  | some _ => failNext .expectedColon
  | none => failNext .eofObject

def closeSeq : Reader (Option DecodeError) := do
  match ← peekPastGap with
  | some ']' => do bump; pure none
  | some ',' => do
    bump
    match ← peekPastGap with
    | some ']' => some <$> errorNext .trailingComma
    | _ => some <$> errorNext .trailingCharacters
  | some _ => some <$> errorNext .trailingCharacters
  | none => some <$> errorNext .eofList

def closeMap : Reader (Option DecodeError) := do
  match ← peekPastGap with
  | some '}' => do bump; pure none
  | some ',' => some <$> errorNext .trailingComma
  | some _ => some <$> errorNext .trailingCharacters
  | none => some <$> errorNext .eofObject

def finish {α : Type} (inner : Except DecodeFault α) (closing : Option DecodeError) :
    Reader α := do
  closeNest
  match inner with
  | .error f => failHere f
  | .ok v =>
    match closing with
    | some e => throw e
    | none => pure v

def wrongTypeAhead {α : Type} (expected : String) : Reader α := do
  match ← peek with
  | some 'n' => do bump; word ['u', 'l', 'l']; failHere (.invalidType .null expected)
  | some 't' => do bump; word ['r', 'u', 'e']; failHere (.invalidType (.bool true) expected)
  | some 'f' => do bump; word ['a', 'l', 's', 'e']; failHere (.invalidType (.bool false) expected)
  | some '-' => do bump; let n ← number false; failHere (.invalidType n.unexpected expected)
  | some '"' => do bump; let s ← string; failHere (.invalidType (.str s) expected)
  | some '[' => failHere (.invalidType .seq expected)
  | some '{' => failHere (.invalidType .map expected)
  | some c =>
    if c.isDigit then do let n ← number true; failHere (.invalidType n.unexpected expected)
    else failNext .expectedValue
  | none => failNext .expectedValue

mutual

def value (fuel : Nat) : Reader Json := do
  match fuel with
  | 0 => failNext .recursionLimit
  | fuel + 1 =>
    match ← peekPastGap with
    | none => failNext .eofValue
    | some 'n' => do bump; word ['u', 'l', 'l']; pure .null
    | some 't' => do bump; word ['r', 'u', 'e']; pure (.bool true)
    | some 'f' => do bump; word ['a', 'l', 's', 'e']; pure (.bool false)
    | some '-' => do bump; let n ← number false; pure n.toJson
    | some '"' => do bump; let s ← string; pure (.str s)
    | some '[' => do
      openNest
      let items ← valueItems fuel true []
      finish (.ok (Json.arr items)) (← closeSeq)
    | some '{' => do
      openNest
      let members ← valueMembers fuel true []
      finish (.ok (Json.obj members)) (← closeMap)
    | some c =>
      if c.isDigit then do let n ← number true; pure n.toJson
      else failNext .expectedValue

def valueItems (fuel : Nat) (first : Bool) (acc : List Json) : Reader (List Json) := do
  match fuel with
  | 0 => failNext .recursionLimit
  | fuel + 1 =>
    if ← moreItems first then
      let v ← value fuel
      valueItems fuel false (v :: acc)
    else pure acc.reverse

def valueMembers (fuel : Nat) (first : Bool) (acc : List (String × Json)) :
    Reader (List (String × Json)) := do
  match fuel with
  | 0 => failNext .recursionLimit
  | fuel + 1 =>
    if ← moreMembers first then
      bump
      let key ← string
      colon
      let v ← value fuel
      valueMembers fuel false (KeyMap.insert acc key v)
    else pure acc

end

def skipExponent : Reader Unit := do
  bump
  match ← peek with
  | some '+' | some '-' => bump
  | _ => pure ()
  match ← next with
  | some c =>
    if c.isDigit then skipDigits (← get).left else failHere (.malformed .invalidNumber)
  | none => failHere (.malformed .invalidNumber)

def skipNumber : Reader Unit := do
  match ← next with
  | some '0' =>
    match ← peek with
    | some c => if c.isDigit then failNext .invalidNumber else pure ()
    | none => pure ()
  | some c =>
    if c.isDigit then skipDigits (← get).left else failHere (.malformed .invalidNumber)
  | none => failHere (.malformed .invalidNumber)
  match ← peek with
  | some '.' =>
    bump
    let before := (← get).left
    skipDigits before
    if (← get).left = before then failNext .invalidNumber
    match ← peek with
    | some 'e' | some 'E' => skipExponent
    | _ => pure ()
  | some 'e' | some 'E' => skipExponent
  | _ => pure ()

def skipString : Reader Unit := do
  let rec go (fuel : Nat) : Reader Unit := do
    match fuel with
    | 0 => failHere (.malformed .eofString)
    | fuel + 1 =>
      match ← peek with
      | none => failHere (.malformed .eofString)
      | some '"' => bump
      | some '\\' => do
        bump
        match ← next with
        | none => failHere (.malformed .eofString)
        | some c =>
          if ['"', '\\', '/', 'b', 'f', 'n', 'r', 't'].contains c then go fuel
          else if c = 'u' then do let _ ← hexEscape; go fuel
          else failHere (.malformed .invalidEscape)
      | some c => if c.toNat < 32 then failHere (.malformed .controlCharacter) else do bump; go fuel
  go ((← get).left + 1)

def frameFault (frame : Char) (list object : SyntaxFault) : SyntaxFault :=
  if frame = '[' then list else object

mutual

def skipValue (fuel : Nat) (frames : List Char) : Reader Unit := do
  match fuel with
  | 0 => failNext .recursionLimit
  | fuel + 1 =>
    match ← peekPastGap with
    | none => failNext .eofValue
    | some 'n' => do bump; word ['u', 'l', 'l']; skipAfter fuel frames
    | some 't' => do bump; word ['r', 'u', 'e']; skipAfter fuel frames
    | some 'f' => do bump; word ['a', 'l', 's', 'e']; skipAfter fuel frames
    | some '-' => do bump; skipNumber; skipAfter fuel frames
    | some '"' => do bump; skipString; skipAfter fuel frames
    | some '[' => do bump; skipOpened fuel ('[' :: frames)
    | some '{' => do bump; skipOpened fuel ('{' :: frames)
    | some c =>
      if c.isDigit then do skipNumber; skipAfter fuel frames
      else failNext .expectedValue

def skipAfter (fuel : Nat) (frames : List Char) : Reader Unit := do
  match fuel with
  | 0 => failNext .recursionLimit
  | fuel + 1 =>
    match frames with
    | [] => pure ()
    | frame :: rest =>
      match ← peekPastGap with
      | none => failNext (frameFault frame .eofList .eofObject)
      | some ',' => do bump; skipEntry fuel frames
      | some c =>
        if (frame = '[' ∧ c = ']') ∨ (frame = '{' ∧ c = '}') then do bump; skipAfter fuel rest
        else failNext (frameFault frame .expectedListCommaOrEnd .expectedObjectCommaOrEnd)

def skipOpened (fuel : Nat) (frames : List Char) : Reader Unit := do
  match fuel with
  | 0 => failNext .recursionLimit
  | fuel + 1 =>
    match frames with
    | [] => pure ()
    | frame :: rest =>
      match ← peekPastGap with
      | none => failNext (frameFault frame .eofList .eofObject)
      | some c =>
        if (frame = '[' ∧ c = ']') ∨ (frame = '{' ∧ c = '}') then do bump; skipAfter fuel rest
        else skipEntry fuel frames

def skipEntry (fuel : Nat) (frames : List Char) : Reader Unit := do
  match fuel with
  | 0 => failNext .recursionLimit
  | fuel + 1 =>
    match frames with
    | '{' :: _ => do
      match ← peekPastGap with
      | some '"' => bump
      | some _ => failNext .keyMustBeString
      | none => failNext .eofObject
      skipString
      colon
      skipValue fuel frames
    | _ => skipValue fuel frames

end

def skip : Reader Unit := do
  skipValue (3 * (← get).left + 3) []

def typedString (expected : String) : Reader String := do
  match ← peekPastGap with
  | none => failNext .eofValue
  | some '"' => do bump; string
  | some _ => wrongTypeAhead expected

mutual

def typed (root : Schema) (fuel : Nat) (sch : Schema) : Reader Json := do
  match fuel with
  | 0 => failNext .recursionLimit
  | fuel + 1 =>
    match sch with
    | .any => value fuel
    | .again => typed root fuel root
    | .optional inner =>
      match ← peekPastGap with
      | some 'n' => do bump; word ['u', 'l', 'l']; pure .null
      | _ => typed root fuel inner
    | .text => do let s ← typedString "a string"; pure (.str s)
    | .flag =>
      match ← peekPastGap with
      | none => failNext .eofValue
      | some 't' => do bump; word ['r', 'u', 'e']; pure (.bool true)
      | some 'f' => do bump; word ['a', 'l', 's', 'e']; pure (.bool false)
      | some _ => wrongTypeAhead "a boolean"
    | .size =>
      let sized (n : Scanned) : Reader Json :=
        match n with
        | .nat n => pure (.num (.nat n))
        | .neg i => failHere (.invalidValue (.signed i) "usize")
        | .float x => failHere (.invalidType (.float x.toBits) "usize")
      match ← peekPastGap with
      | none => failNext .eofValue
      | some '-' => do bump; sized (← number false)
      | some c => if c.isDigit then do sized (← number true) else wrongTypeAhead "usize"
    | .seq item =>
      match ← peekPastGap with
      | none => failNext .eofValue
      | some '[' => do
        openNest
        let items ← typedItems root fuel item true []
        finish (.ok (Json.arr items)) (← closeSeq)
      | some _ => wrongTypeAhead "a sequence"
    | .map =>
      match ← peekPastGap with
      | none => failNext .eofValue
      | some '{' => do
        openNest
        let members ← valueMembers fuel true []
        finish (.ok (Json.obj members)) (← closeMap)
      | some _ => wrongTypeAhead "a map"
    | .record name fields defaults =>
      match ← peekPastGap with
      | none => failNext .eofValue
      | some '[' => do
        openNest
        let read ← typedPositions root fuel name fields defaults 0 fields.length true []
        finish (read.map Json.obj) (← closeSeq)
      | some '{' => do
        openNest
        let read ← typedMembers root fuel fields true []
        let read := read.bind fun given =>
          if defaults then .ok given
          else match Schema.firstMissing fields given with
            | some missing => .error (.missingField missing)
            | none => .ok given
        finish (read.map Json.obj) (← closeMap)
      | some _ => wrongTypeAhead ("struct " ++ name)
    | .variant =>
      match ← peekPastGap with
      | none => failNext .eofValue
      | some '"' => do bump; let s ← string; pure (.str s)
      | some '{' => do
        openNest
        let name ← typedString "variant identifier"
        colon
        match ← peekPastGap with
        | some 'n' => do bump; word ['u', 'l', 'l']
        | none => failNext .eofValue
        | some _ => wrongTypeAhead "unit"
        closeNest
        match ← peekPastGap with
        | some '}' => do bump; pure (.str name)
        | some _ => failHere (.malformed .expectedValue)
        | none => failHere (.malformed .eofObject)
      | some _ => failNext .expectedValue

def typedItems (root : Schema) (fuel : Nat) (item : Schema) (first : Bool) (acc : List Json) :
    Reader (List Json) := do
  match fuel with
  | 0 => failNext .recursionLimit
  | fuel + 1 =>
    if ← moreItems first then
      let v ← typed root fuel item
      typedItems root fuel item false (v :: acc)
    else pure acc.reverse

def typedMembers (root : Schema) (fuel : Nat) (fields : List (String × Schema)) (first : Bool)
    (acc : List (String × Json)) : Reader (Except DecodeFault (List (String × Json))) := do
  match fuel with
  | 0 => failNext .recursionLimit
  | fuel + 1 =>
    if ← moreMembers first then
      bump
      let key ← string
      match fields.lookup key with
      | some sch =>
        if KeyMap.contains acc key then pure (.error (.duplicateField key))
        else do
          colon
          let v ← typed root fuel sch
          typedMembers root fuel fields false (KeyMap.insert acc key v)
      | none => do
        colon
        skip
        typedMembers root fuel fields false acc
    else pure (.ok acc)

def typedPositions (root : Schema) (fuel : Nat) (name : String)
    (fields : List (String × Schema)) (defaults : Bool) (index total : Nat) (first : Bool)
    (acc : List (String × Json)) : Reader (Except DecodeFault (List (String × Json))) := do
  match fuel with
  | 0 => failNext .recursionLimit
  | fuel + 1 =>
    match fields with
    | [] => pure (.ok acc)
    | (fname, sch) :: rest =>
      if ← moreItems first then
        let v ← typed root fuel sch
        typedPositions root fuel name rest defaults (index + 1) total false
          (KeyMap.insert acc fname v)
      else if defaults then
        typedPositions root fuel name rest defaults (index + 1) total first acc
      else
        let expected := "struct " ++ name ++ " with " ++ toString total ++ " elements"
        pure (.error (.invalidLength index expected))

end

def atEnd : Reader Unit := do
  match ← peekPastGap with
  | none => pure ()
  | some _ => failNext .trailingCharacters

end Reader

def fuelFor (text : String) : Nat := (text.length + 2) * 32

def parse (text : String) : Except DecodeError Json :=
  let run : Reader Json := do
    let v ← Reader.value (fuelFor text)
    Reader.atEnd
    pure v
  (run.run { rest := text.toList }).map Prod.fst

def Schema.ofText (sch : Schema) (text : String) : Except DecodeError Json :=
  let run : Reader Json := do
    let v ← Reader.typed sch (fuelFor text) sch
    Reader.atEnd
    pure v
  (run.run { rest := text.toList }).map Prod.fst

end TaskTree.Json
