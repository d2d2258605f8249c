import TaskTree.Regex.Syntax

namespace TaskTree.Regex

set_option autoImplicit false

structure Cursor where
  chars : Array Char
  pos : Nat
  verbose : Bool
  names : List (String × Span)

abbrev Scan := StateT Cursor (Except ParseError)

namespace Scan

def here : Scan Nat := return (← get).pos

def peekAt (k : Nat) : Scan (Option Char) := do
  let s ← get
  return s.chars[s.pos + k]?

def peek : Scan (Option Char) := peekAt 0

def atEnd : Scan Bool := do
  let s ← get
  return s.chars.size ≤ s.pos

def bump : Scan Bool := do
  let s ← get
  if s.pos < s.chars.size then
    set { s with pos := s.pos + 1 }
    return s.pos + 1 < s.chars.size
  else return false

def fail {α : Type} (fault : Fault) (span : Span) : Scan α :=
  throw { fault, span }

def charSpan : Scan Span := do
  let p ← here
  return ⟨p, p + 1⟩

def emptySpan : Scan Span := do
  let p ← here
  return ⟨p, p⟩

def pastComment (chars : Array Char) : Nat → Nat → Nat
  | 0, i => i
  | fuel + 1, i =>
    match chars[i]? with
    | some '\n' => i + 1
    | some _ => pastComment chars fuel (i + 1)
    | none => i

def pastBlanks (chars : Array Char) : Nat → Nat → Nat
  | 0, i => i
  | fuel + 1, i =>
    match chars[i]? with
    | some c =>
      if Text.isBlank c then pastBlanks chars fuel (i + 1)
      else if c = '#' then pastBlanks chars fuel (pastComment chars fuel (i + 1))
      else i
    | none => i

def skipBlanks : Scan Unit :=
  modify fun s => if s.verbose then { s with pos := pastBlanks s.chars (s.chars.size + 1) s.pos }
    else s

def bumpAndSkip : Scan Bool := do
  if !(← bump) then return false
  skipBlanks
  return !(← atEnd)

def bumpIf (word : String) : Scan Bool := do
  let s ← get
  let cs := word.toList
  if (cs.zipIdx.all fun (c, k) => s.chars[s.pos + k]? == some c) then
    set { s with pos := s.pos + cs.length }
    return true
  else return false

def lookIndex (chars : Array Char) (origin : Nat) : Nat → Nat → Bool → Nat
  | 0, _, _ => origin
  | fuel + 1, i, inComment =>
    match chars[i]? with
    | none => origin
    | some c =>
      if Text.isBlank c then lookIndex chars origin fuel (i + 1) inComment
      else if !inComment && c = '#' then lookIndex chars origin fuel (i + 1) true
      else if inComment && c = '\n' then lookIndex chars origin fuel (i + 1) false
      else i

def peekSpace : Scan (Option Char) := do
  let s ← get
  if !s.verbose then return s.chars[s.pos + 1]?
  if s.chars.size ≤ s.pos then return none
  return s.chars[lookIndex s.chars (s.pos + 1) (s.chars.size + 1) (s.pos + 1) false]?

def slice (start stop : Nat) : Scan String := do
  let s ← get
  return String.ofList ((s.chars.extract start stop).toList)

def collect (p : Char → Bool) : Nat → List Char → Scan (List Char)
  | 0, acc => return acc.reverse
  | fuel + 1, acc => do
    match ← peek with
    | some c =>
      if p c then
        discard bumpAndSkip
        collect p fuel (c :: acc)
      else return acc.reverse
    | none => return acc.reverse

def fuel : Scan Nat := return (← get).chars.size + 1

end Scan

open Scan

def isMeta (c : Char) : Bool :=
  "\\.+*?()|[]{}^$#&-~".toList.contains c

def isEscapable (c : Char) : Bool :=
  isMeta c || (c.toNat < 128 && !c.isAlphanum && c != '<' && c != '>')

def hexValue (c : Char) : Option Nat :=
  if c.isDigit then some (c.toNat - 48)
  else if 'a' ≤ c ∧ c ≤ 'f' then some (c.toNat - 87)
  else if 'A' ≤ c ∧ c ≤ 'F' then some (c.toNat - 55)
  else none

def hexNumber (digits : List Char) : Nat :=
  digits.foldl (fun n c => n * 16 + (hexValue c).getD 0) 0

def scalar? (n : Nat) : Option Char :=
  if n < 0xD800 ∨ (0xDFFF < n ∧ n < 0x110000) then some (Char.ofNat n) else none

inductive Primitive where
  | literal (lit : Literal)
  | assertion (kind : Assertion) (span : Span)
  | dot (span : Span)
  | perl (cls : PerlClass)
  | unicode (cls : UnicodeClass)

def Primitive.span : Primitive → Span
  | .literal lit => lit.span
  | .assertion _ s | .dot s => s
  | .perl cls => cls.span
  | .unicode cls => cls.span

def Primitive.toAst : Primitive → Ast
  | .literal lit => .literal lit
  | .assertion kind span => .assertion kind span
  | .dot span => .dot span
  | .perl cls => .perl cls
  | .unicode cls => .unicode cls

def Primitive.toClassSet : Primitive → Scan ClassSet
  | .literal lit => return .literal lit
  | .perl cls => return .perl cls
  | .unicode cls => return .unicode cls
  | p => fail .classEscapeInvalid p.span

def Primitive.toLiteral : Primitive → Scan Literal
  | .literal lit => return lit
  | p => fail .classRangeLiteral p.span

def hexFixed (digits : Nat) : Scan Literal := do
  let start ← here
  let rec go : Nat → Bool → List Char → Scan (List Char)
    | 0, _, acc => return acc.reverse
    | n + 1, first, acc => do
      if !first then
        if !(← bumpAndSkip) then fail .escapeUnexpectedEof (← emptySpan)
      let c := (← peek).getD ' '
      if (hexValue c).isNone then fail .escapeHexInvalidDigit (← charSpan)
      go n false (c :: acc)
  let ds ← go digits true []
  discard bumpAndSkip
  let stop ← here
  match scalar? (hexNumber ds) with
  | some c => return ⟨c, digits = 2, ⟨start, stop⟩⟩
  | none => fail .escapeHexInvalid ⟨start, stop⟩

def hexBrace : Scan Literal := do
  let bracePos ← here
  let start := bracePos + 1
  let rec go : Nat → List Char → Scan (List Char)
    | 0, acc => return acc.reverse
    | n + 1, acc => do
      if !(← bumpAndSkip) then return acc.reverse
      match ← peek with
      | some '}' => return acc.reverse
      | some c =>
        if (hexValue c).isSome then go n (c :: acc) else fail .escapeHexInvalidDigit (← charSpan)
      | none => return acc.reverse
  let ds ← go (← Scan.fuel) []
  if ← atEnd then fail .escapeUnexpectedEof ⟨bracePos, ← here⟩
  let stop ← here
  discard bumpAndSkip
  if ds.isEmpty then fail .escapeHexEmpty ⟨bracePos, ← here⟩
  match scalar? (hexNumber ds) with
  | some c => return ⟨c, false, ⟨start, ← here⟩⟩
  | none => fail .escapeHexInvalid ⟨start, stop⟩

def hexEscape : Scan Literal := do
  let digits := match ← peek with
    | some 'x' => 2
    | some 'u' => 4
    | _ => 8
  if !(← bumpAndSkip) then fail .escapeUnexpectedEof (← emptySpan)
  if (← peek) = some '{' then hexBrace else hexFixed digits

def splitQuery (name : List Char) : PropertyQuery × Bool :=
  let rec find (sep : Char → Bool) : Nat → List Char → Option Nat
    | _, [] => none
    | k, c :: rest => if sep c then some k else find sep (k + 1) rest
  let rec findPair : Nat → List Char → Option Nat
    | _, [] => none
    | k, c :: rest =>
      if c = '!' ∧ rest.head? = some '=' then some k else findPair (k + 1) rest
  match findPair 0 name with
  | some k =>
    (.valued (String.ofList (name.take k)) (String.ofList (name.drop (k + 2))), true)
  | none =>
    match find (fun c => c = ':' ∨ c = '=') 0 name with
    | some k => (.valued (String.ofList (name.take k)) (String.ofList (name.drop (k + 1))), false)
    | none => (.name (String.ofList name), false)

def propertyClass : Scan UnicodeClass := do
  let negated := (← peek) = some 'P'
  if !(← bumpAndSkip) then fail .escapeUnexpectedEof (← emptySpan)
  if (← peek) = some '{' then
    let start := (← here) + 1
    let rec go : Nat → List Char → Scan (List Char)
      | 0, acc => return acc.reverse
      | n + 1, acc => do
        if !(← bumpAndSkip) then return acc.reverse
        match ← peek with
        | some '}' => return acc.reverse
        | some c => go n (c :: acc)
        | none => return acc.reverse
    let name ← go (← Scan.fuel) []
    if ← atEnd then fail .escapeUnexpectedEof (← emptySpan)
    discard bump
    let (query, notEqual) := splitQuery name
    return ⟨negated != notEqual, query, ⟨start, ← here⟩⟩
  else
    let start ← here
    let c := (← peek).getD ' '
    if c = '\\' then fail .unicodeClassInvalid (← charSpan)
    discard bumpAndSkip
    return ⟨negated, .letter c, ⟨start, ← here⟩⟩

def specialWordBoundary (wbStart : Nat) : Scan (Option Assertion) := do
  let start ← here
  if !(← bumpAndSkip) then fail .specialWordOrRepetitionUnexpectedEof ⟨wbStart, ← here⟩
  let contentStart ← here
  let valid (c : Char) : Bool := c.isAlpha || c = '-'
  if !valid ((← peek).getD ' ') then
    modify fun s => { s with pos := start }
    return none
  let word ← collect valid (← Scan.fuel) []
  if (← peek) != some '}' then fail .specialWordBoundaryUnclosed ⟨start, ← here⟩
  let stop ← here
  discard bump
  match String.ofList word with
  | "start" => return some .wordStart
  | "end" => return some .wordEnd
  | "start-half" => return some .wordStartHalf
  | "end-half" => return some .wordEndHalf
  | _ => fail .specialWordBoundaryUnrecognized ⟨contentStart, stop⟩

def escape : Scan Primitive := do
  let start ← here
  if !(← bump) then fail .escapeUnexpectedEof ⟨start, ← here⟩
  let c := (← peek).getD ' '
  if c.isDigit then fail .unsupportedBackreference ⟨start, (← here) + 1⟩
  if c = 'x' ∨ c = 'u' ∨ c = 'U' then
    let lit ← hexEscape
    return .literal { lit with span := ⟨start, lit.span.stop⟩ }
  if c = 'p' ∨ c = 'P' then
    let cls ← propertyClass
    return .unicode { cls with span := ⟨start, cls.span.stop⟩ }
  let perl : Option (Perl × Bool) := match c with
    | 'd' => some (.digit, false)
    | 'D' => some (.digit, true)
    | 's' => some (.space, false)
    | 'S' => some (.space, true)
    | 'w' => some (.word, false)
    | 'W' => some (.word, true)
    | _ => none
  if let some (kind, negated) := perl then
    discard bump
    return .perl ⟨kind, negated, ⟨start, ← here⟩⟩
  discard bump
  let span : Span := ⟨start, ← here⟩
  if isEscapable c then return .literal ⟨c, false, span⟩
  let special (d : Char) : Scan Primitive := return .literal ⟨d, false, span⟩
  match c with
  | 'a' => special (Char.ofNat 7)
  | 'f' => special (Char.ofNat 12)
  | 't' => special '\t'
  | 'n' => special '\n'
  | 'r' => special '\r'
  | 'v' => special (Char.ofNat 11)
  | 'A' => return .assertion .textStart span
  | 'z' => return .assertion .textEnd span
  | 'b' =>
    if (← peek) = some '{' then
      match ← specialWordBoundary start with
      | some kind => return .assertion kind ⟨start, ← here⟩
      | none => return .assertion .wordBoundary span
    else return .assertion .wordBoundary span
  | 'B' => return .assertion .notWordBoundary span
  | '<' => return .assertion .wordStart span
  | '>' => return .assertion .wordEnd span
  | _ => fail .escapeUnrecognized span

def primitive : Scan Primitive := do
  let span ← charSpan
  match ← peek with
  | some '\\' => escape
  | some '.' => discard bump; return .dot span
  | some '^' => discard bump; return .assertion .lineStart span
  | some '$' => discard bump; return .assertion .lineEnd span
  | c => discard bump; return .literal ⟨c.getD ' ', false, span⟩

abbrev Count := Except ParseError Nat

def decimal : Scan Count := do
  let rec blanks : Nat → Scan Unit
    | 0 => return
    | n + 1 => do
      match ← peek with
      | some c => if Text.isBlank c then discard bump; blanks n else return
      | none => return
  let rec trailing : Nat → Scan Unit
    | 0 => return
    | n + 1 => do
      match ← peek with
      | some c => if Text.isBlank c then discard bumpAndSkip; trailing n else return
      | none => return
  blanks (← Scan.fuel)
  let start ← here
  let digits ← collect Char.isDigit (← Scan.fuel) []
  let span : Span := ⟨start, ← here⟩
  trailing (← Scan.fuel)
  if digits.isEmpty then return .error { fault := .repetitionCountDecimalEmpty, span }
  let n := digits.foldl (fun n c => n * 10 + (c.toNat - 48)) 0
  if Nat.pow 2 32 ≤ n then return .error { fault := .decimalInvalid, span }
  return .ok n

structure Seq where
  start : Nat
  items : Array Ast

def Seq.close (s : Seq) (stop : Nat) : Ast :=
  match s.items.toList with
  | [] => .empty ⟨s.start, stop⟩
  | [a] => a
  | items => .concat items ⟨s.start, stop⟩

def Seq.takeLast (s : Seq) : Scan (Ast × Seq) := do
  match s.items.back? with
  | some (.flags _ _) | some (.empty _) | none => fail .repetitionMissing (← emptySpan)
  | some a => return (a, { s with items := s.items.pop })

def uncounted (s : Seq) (min : Nat) (max : Option Nat) : Scan Seq := do
  let (body, s) ← s.takeLast
  let mut greedy := true
  if ← bump then
    if (← peek) = some '?' then
      greedy := false
      discard bump
  return { s with items := s.items.push (.repetition body min max greedy
    ⟨body.span.start, ← here⟩) }

def counted (s : Seq) : Scan Seq := do
  let start ← here
  let (body, s) ← s.takeLast
  let unclosed : Scan Unit := do fail .repetitionCountUnclosed ⟨start, ← here⟩
  if !(← bumpAndSkip) then unclosed
  let first ← decimal
  if ← atEnd then unclosed
  let (min, max) ← do
    if (← peek) = some ',' then
      if !(← bumpAndSkip) then unclosed
      if (← peek) != some '}' then
        let lo ← liftExcept first
        let hi ← liftExcept (← decimal)
        pure (lo, some hi)
      else pure (← liftExcept first, none)
    else
      let n ← liftExcept first
      pure (n, some n)
  if (← peek) != some '}' then unclosed
  let mut greedy := true
  if ← bumpAndSkip then
    if (← peek) = some '?' then
      greedy := false
      discard bump
  let opSpan : Span := ⟨start, ← here⟩
  if let some hi := max then
    if hi < min then fail .repetitionCountInvalid opSpan
  return { s with items := s.items.push (.repetition body min max greedy
    ⟨body.span.start, ← here⟩) }
where
  liftExcept {α : Type} (r : Except ParseError α) : Scan α :=
    match r with
    | .ok a => pure a
    | .error e => throw e

def captureName : Scan String := do
  if ← atEnd then fail .groupNameUnexpectedEof (← emptySpan)
  let start ← here
  let rec go : Nat → Scan Unit
    | 0 => return
    | n + 1 => do
      let c := (← peek).getD '>'
      if c = '>' then return
      let first := (← here) = start
      let ok := c = '_' || (if first then Property.alphabetic.holds c
        else c = '.' || c = '[' || c = ']' || Text.isAlnum c)
      if !ok then fail .groupNameInvalid (← charSpan)
      if ← bump then go n
  go (← Scan.fuel)
  let stop ← here
  if ← atEnd then fail .groupNameUnexpectedEof (← emptySpan)
  discard bump
  let name ← slice start stop
  if name.isEmpty then fail .groupNameEmpty ⟨start, start⟩
  let s ← get
  match s.names.find? (·.1 == name) with
  | some (_, earlier) => throw { fault := .groupNameDuplicate, span := ⟨start, stop⟩, earlier }
  | none => set { s with names := (name, ⟨start, stop⟩) :: s.names }
  return name

def flagOf? : Char → Option Flag
  | 'i' => some .caseless
  | 'm' => some .multiLine
  | 's' => some .dotAll
  | 'U' => some .swapGreed
  | 'u' => some .unicode
  | 'R' => some .crlf
  | 'x' => some .verbose
  | _ => none

def flagItems : Scan (List FlagItem) := do
  let rec go : Nat → List (FlagItem × Span) → Option Span → Scan (List FlagItem)
    | 0, items, _ => return items.reverse.map (·.1)
    | n + 1, items, lastNegation => do
      let c := (← peek).getD ')'
      if c = ':' ∨ c = ')' then
        if let some span := lastNegation then fail .flagDanglingNegation span
        return items.reverse.map (·.1)
      let span ← charSpan
      let item ← if c = '-' then pure FlagItem.negation
        else match flagOf? c with
          | some f => pure (FlagItem.flag f)
          | none => fail .flagUnrecognized span
      if let some (_, earlier) := items.find? (·.1 == item) then
        let fault := if item = .negation then Fault.flagRepeatedNegation else .flagDuplicate
        throw { fault, span, earlier }
      if !(← bump) then fail .flagUnexpectedEof (← emptySpan)
      go n ((item, span) :: items) (if item = .negation then some span else none)
  go (← Scan.fuel) [] none

inductive Opened where
  | flags (items : List FlagItem) (span : Span)
  | group (kind : GroupKind) (openAt : Nat)

def lookaround : Scan Bool := do
  if ← bumpIf "?=" then return true
  if ← bumpIf "?!" then return true
  if ← bumpIf "?<=" then return true
  bumpIf "?<!"

def groupOpen : Scan Opened := do
  let openAt ← here
  discard bump
  skipBlanks
  if ← lookaround then fail .unsupportedLookAround ⟨openAt, ← here⟩
  let inner ← emptySpan
  let named ← do if ← bumpIf "?P<" then pure true else bumpIf "?<"
  if named then
    return .group (.named (← captureName)) openAt
  if ← bumpIf "?" then
    if ← atEnd then fail .groupUnclosed inner
    let items ← flagItems
    let last ← peek
    discard bump
    if last = some ')' then
      if items.isEmpty then fail .repetitionMissing inner
      return .flags items ⟨openAt, ← here⟩
    return .group (.flagged items) openAt
  return .group .capture openAt

inductive Frame where
  | group (outer : Seq) (kind : GroupKind) (openAt : Nat) (verbose : Bool)
  | alternation (branches : Array Ast) (start : Nat)

def groupClose (s : Seq) (stack : List Frame) : Scan (Seq × List Frame) := do
  let (outer, kind, openAt, verbose, alt, rest) ← match stack with
    | .group outer kind openAt verbose :: rest => pure (outer, kind, openAt, verbose, none, rest)
    | .alternation branches start :: .group outer kind openAt verbose :: rest =>
      pure (outer, kind, openAt, verbose, some (branches, start), rest)
    | _ => fail .groupUnopened (← charSpan)
  modify fun c => { c with verbose }
  let stop ← here
  discard bump
  let body := match alt with
    | some (branches, start) => .alternation (branches.push (s.close stop)).toList ⟨start, stop⟩
    | none => s.close stop
  return ({ outer with items := outer.items.push (.group kind body ⟨openAt, ← here⟩) }, rest)

def closeAll (s : Seq) (stack : List Frame) : Scan Ast := do
  let stop ← here
  match stack with
  | [] => return s.close stop
  | [.alternation branches start] =>
    return .alternation (branches.push (s.close stop)).toList ⟨start, stop⟩
  | .alternation _ _ :: .group _ _ openAt _ :: _ | .group _ _ openAt _ :: _ =>
    fail .groupUnclosed ⟨openAt, openAt + 1⟩
  | .alternation _ _ :: .alternation _ start :: _ => fail .groupUnclosed ⟨start, start + 1⟩

structure Union where
  span : Span
  items : Array ClassSet

def Union.push (u : Union) (item : ClassSet) : Union :=
  { span := ⟨if u.items.isEmpty then item.span.start else u.span.start, item.span.stop⟩,
    items := u.items.push item }

def Union.toSet (u : Union) : ClassSet :=
  match u.items.toList with
  | [] => .empty u.span
  | [x] => x
  | xs => .union xs u.span

inductive ClassFrame where
  | opened (outer : Union) (negated : Bool) (start : Nat) (openSpan : Span)
  | op (kind : SetOp) (lhs : ClassSet)

def unclosedClass (stack : List ClassFrame) : ParseError :=
  let span := (stack.findSome? fun
    | .opened _ _ _ openSpan => some openSpan
    | .op _ _ => none).getD ⟨0, 0⟩
  { fault := .classUnclosed, span }

def closeOp (rhs : ClassSet) : List ClassFrame → ClassSet × List ClassFrame
  | .op kind lhs :: rest => (.op kind lhs rhs ⟨lhs.span.start, rhs.span.stop⟩, rest)
  | stack => (rhs, stack)

def classOpen : Scan (Bool × Nat × Span × Union) := do
  let start ← here
  if !(← bumpAndSkip) then fail .classUnclosed ⟨start, ← here⟩
  let negated ← do
    if (← peek) = some '^' then
      if !(← bumpAndSkip) then fail .classUnclosed ⟨start, ← here⟩
      pure true
    else pure false
  let rec dashes : Nat → Union → Scan Union
    | 0, u => return u
    | n + 1, u => do
      if (← peek) != some '-' then return u
      let u := u.push (.literal ⟨'-', false, ← charSpan⟩)
      if !(← bumpAndSkip) then fail .classUnclosed ⟨start, start⟩
      dashes n u
  let mut u ← dashes (← Scan.fuel) ⟨← emptySpan, #[]⟩
  if u.items.isEmpty && (← peek) = some ']' then
    u := u.push (.literal ⟨']', false, ← charSpan⟩)
    if !(← bumpAndSkip) then fail .classUnclosed ⟨start, ← here⟩
  return (negated, start, ⟨start, ← here⟩, u)

def asciiClass? : Scan (Option ClassSet) := do
  let saved ← get
  let start ← here
  let back : Scan (Option ClassSet) := do set saved; return none
  if !(← bump) then return ← back
  if (← peek) != some ':' then return ← back
  if !(← bump) then return ← back
  let mut negated := false
  if (← peek) = some '^' then
    negated := true
    if !(← bump) then return ← back
  let nameStart ← here
  let rec toColon : Nat → Scan Unit
    | 0 => return
    | n + 1 => do
      if (← peek) = some ':' then return
      if ← bump then toColon n
  toColon (← Scan.fuel)
  if ← atEnd then return ← back
  let name ← slice nameStart (← here)
  if !(← bumpIf ":]") then return ← back
  match AsciiClass.ofName? name with
  | some kind => return some (.ascii kind negated ⟨start, ← here⟩)
  | none => back

def classPart : Scan Primitive := do
  if (← peek) = some '\\' then escape
  else
    let span ← charSpan
    let c := (← peek).getD ' '
    discard bump
    return .literal ⟨c, false, span⟩

def classRange (unclosed : ParseError) : Scan ClassSet := do
  let first ← classPart
  skipBlanks
  if ← atEnd then throw unclosed
  let next ← peekSpace
  if (← peek) != some '-' || next = some ']' || next = some '-' then
    return ← first.toClassSet
  if !(← bumpAndSkip) then throw unclosed
  let second ← classPart
  let span : Span := ⟨first.span.start, second.span.stop⟩
  let lo ← first.toLiteral
  let hi ← second.toLiteral
  if hi.c < lo.c then fail .classRangeInvalid span
  return .range lo hi span

def bracketClass : Scan Ast := do
  let rec go : Nat → Union → List ClassFrame → Scan Ast
    | 0, _, stack => throw (unclosedClass stack)
    | n + 1, u, stack => do
      skipBlanks
      if ← atEnd then throw (unclosedClass stack)
      let c := (← peek).getD ' '
      let twin := (← peekAt 1) = some c
      if c = '[' then
        let ascii ← if stack.isEmpty then pure none else asciiClass?
        if let some item := ascii then
          return ← go n (u.push item) stack
        let (negated, start, openSpan, inner) ← classOpen
        go n inner (.opened u negated start openSpan :: stack)
      else if c = ']' then
        let (body, stack) := closeOp u.toSet stack
        match stack with
        | .opened outer negated start _ :: rest =>
          discard bump
          let span : Span := ⟨start, ← here⟩
          if rest.isEmpty then return .bracket negated body span
          go n (outer.push (.bracket negated body span)) rest
        | _ => throw (unclosedClass stack)
      else if twin && (c = '&' || c = '-' || c = '~') then
        discard bump
        discard bump
        let kind : SetOp := if c = '&' then .intersection
          else if c = '-' then .difference else .symmetricDifference
        let (lhs, stack) := closeOp u.toSet stack
        go n ⟨← emptySpan, #[]⟩ (.op kind lhs :: stack)
      else
        let item ← classRange (unclosedClass stack)
        go n (u.push item) stack
  go (← Scan.fuel) ⟨← emptySpan, #[]⟩ []

def expression : Nat → Seq → List Frame → Scan Ast
  | 0, s, stack => closeAll s stack
  | n + 1, s, stack => do
    skipBlanks
    match ← peek with
    | none => closeAll s stack
    | some '(' =>
      match ← groupOpen with
      | .flags items span =>
        if let some v := flagState items .verbose then
          modify fun c => { c with verbose := v }
        expression n { s with items := s.items.push (.flags items span) } stack
      | .group kind openAt =>
        let old := (← get).verbose
        let new := match kind with
          | .flagged items => (flagState items .verbose).getD old
          | _ => old
        modify fun c => { c with verbose := new }
        expression n ⟨← here, #[]⟩ (.group s kind openAt old :: stack)
    | some ')' =>
      let (s, stack) ← groupClose s stack
      expression n s stack
    | some '|' =>
      let stop ← here
      let stack := match stack with
        | .alternation branches start :: rest =>
          .alternation (branches.push (s.close stop)) start :: rest
        | _ => .alternation #[s.close stop] s.start :: stack
      discard bump
      expression n ⟨← here, #[]⟩ stack
    | some '[' =>
      let cls ← bracketClass
      expression n { s with items := s.items.push cls } stack
    | some '?' => expression n (← uncounted s 0 (some 1)) stack
    | some '*' => expression n (← uncounted s 0 none) stack
    | some '+' => expression n (← uncounted s 1 none) stack
    | some '{' => expression n (← counted s) stack
    | some _ =>
      let p ← primitive
      expression n { s with items := s.items.push p.toAst } stack

def nestLimit : Nat := 250

mutual

def Ast.tooDeep (limit depth : Nat) : Ast → Option Span
  | .repetition body _ _ _ span =>
    if limit < depth + 1 then some span else body.tooDeep limit (depth + 1)
  | .group _ body span =>
    if limit < depth + 1 then some span else body.tooDeep limit (depth + 1)
  | .alternation branches span =>
    if limit < depth + 1 then some span else Ast.listTooDeep limit (depth + 1) branches
  | .concat parts span =>
    if limit < depth + 1 then some span else Ast.listTooDeep limit (depth + 1) parts
  | .bracket _ body span =>
    if limit < depth + 1 then some span else body.tooDeep limit (depth + 1)
  | _ => none

def Ast.listTooDeep (limit depth : Nat) : List Ast → Option Span
  | [] => none
  | a :: rest => (a.tooDeep limit depth).orElse fun _ => Ast.listTooDeep limit depth rest

def ClassSet.tooDeep (limit depth : Nat) : ClassSet → Option Span
  | .bracket _ body span =>
    if limit < depth + 1 then some span else body.tooDeep limit (depth + 1)
  | .union items span =>
    if limit < depth + 1 then some span else ClassSet.listTooDeep limit (depth + 1) items
  | .op _ lhs rhs span =>
    if limit < depth + 1 then some span
    else (lhs.tooDeep limit (depth + 1)).orElse fun _ => rhs.tooDeep limit (depth + 1)
  | _ => none

def ClassSet.listTooDeep (limit depth : Nat) : List ClassSet → Option Span
  | [] => none
  | a :: rest => (a.tooDeep limit depth).orElse fun _ => ClassSet.listTooDeep limit depth rest

end

def parse (pattern : String) : Except ParseError Ast := do
  let chars := pattern.toList.toArray
  let (ast, _) ← (expression (chars.size + 1) ⟨0, #[]⟩ []).run ⟨chars, 0, false, []⟩
  match ast.tooDeep nestLimit 0 with
  | some span => throw { fault := .nestLimitExceeded nestLimit, span }
  | none => pure ast

end TaskTree.Regex
