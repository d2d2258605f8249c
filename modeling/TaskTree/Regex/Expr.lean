import TaskTree.Regex.Reader

namespace TaskTree.Regex

set_option autoImplicit false

structure Settings where
  caseless : Bool := false
  multiLine : Bool := false
  dotAll : Bool := false
  unicode : Bool := true
  crlf : Bool := false
deriving Inhabited

def Settings.apply (s : Settings) (items : List FlagItem) : Settings :=
  let state (f : Flag) (old : Bool) : Bool := (flagState items f).getD old
  { caseless := state .caseless s.caseless
    multiLine := state .multiLine s.multiLine
    dotAll := state .dotAll s.dotAll
    unicode := state .unicode s.unicode
    crlf := state .crlf s.crlf }

def caseGroups : List (List Nat) :=
  [[0x4B, 0x6B, 0x212A], [0x53, 0x73, 0x17F], [0xC5, 0xE5, 0x212B], [0xB5, 0x39C, 0x3BC],
    [0x3A3, 0x3C2, 0x3C3], [0xDF, 0x1E9E], [0x398, 0x3B8, 0x3D1, 0x3F4],
    [0x345, 0x399, 0x3B9, 0x1FBE], [0x392, 0x3B2, 0x3D0], [0x395, 0x3B5, 0x3F5],
    [0x39A, 0x3BA, 0x3F0], [0x3A0, 0x3C0, 0x3D6], [0x3A1, 0x3C1, 0x3F1],
    [0x3A6, 0x3C6, 0x3D5], [0xFF, 0x178]]

def caseClass (unicode : Bool) (c : Char) : List Char :=
  if unicode then
    match caseGroups.find? (·.contains c.toNat) with
    | some group => group.map Char.ofNat
    | none => [c, otherCase c]
  else if c.toNat < 128 then [c, otherCase c]
  else [c]

inductive CharSet where
  | range (lo hi : Nat)
  | perl (kind : Perl)
  | ascii (kind : AsciiClass)
  | property (p : Property)
  | bits (mask : Nat)
  | union (parts : List CharSet)
  | complement (s : CharSet)
  | inter (a b : CharSet)
  | diff (a b : CharSet)
  | symmDiff (a b : CharSet)
  | folded (unicode : Bool) (s : CharSet)
deriving Inhabited

mutual

def CharSet.holds : CharSet → Char → Bool
  | .range lo hi, c => lo ≤ c.toNat && c.toNat ≤ hi
  | .perl kind, c => kind.holds c
  | .ascii kind, c => kind.holds c
  | .property p, c => p.holds c
  | .bits mask, c => c.toNat < 128 && mask.testBit c.toNat
  | .union parts, c => CharSet.anyHolds parts c
  | .complement s, c => !s.holds c
  | .inter a b, c => a.holds c && b.holds c
  | .diff a b, c => a.holds c && !b.holds c
  | .symmDiff a b, c => a.holds c != b.holds c
  | .folded unicode s, c => CharSet.holdsAny s (caseClass unicode c)

def CharSet.anyHolds : List CharSet → Char → Bool
  | [], _ => false
  | s :: rest, c => s.holds c || CharSet.anyHolds rest c

def CharSet.holdsAny (s : CharSet) : List Char → Bool
  | [] => false
  | c :: rest => s.holds c || CharSet.holdsAny s rest

end

def CharSet.any : CharSet := .range 0 0x10FFFF

inductive Look where
  | textStart
  | textEnd
  | lineStart (crlf : Bool)
  | lineEnd (crlf : Bool)
  | word (unicode : Bool)
  | notWord
  | wordStart (unicode : Bool)
  | wordEnd (unicode : Bool)
  | wordStartHalf (unicode : Bool)
  | wordEndHalf (unicode : Bool)
deriving DecidableEq, Inhabited

inductive Expr where
  | empty
  | chars (set : CharSet)
  | look (l : Look)
  | concat (parts : List Expr)
  | alt (branches : List Expr)
  | rep (body : Expr) (min : Nat) (max : Option Nat)
  | capture (body : Expr)
deriving Inhabited

mutual

def Expr.onlyEmpty : Expr → Bool
  | .empty | .look _ => true
  | .chars _ => false
  | .concat parts => Expr.allOnlyEmpty parts
  | .alt branches => Expr.allOnlyEmpty branches
  | .rep body _ max => body.onlyEmpty || max == some 0
  | .capture body => body.onlyEmpty

def Expr.allOnlyEmpty : List Expr → Bool
  | [] => true
  | e :: rest => e.onlyEmpty && Expr.allOnlyEmpty rest

end

def Expr.repeat (body : Expr) (min : Nat) (max : Option Nat) : Expr :=
  let (min, max) :=
    if body.onlyEmpty then (Nat.min min 1, some (Nat.min (max.getD 1) 1)) else (min, max)
  if min = 1 ∧ max = some 1 then body
  else if min = 0 ∧ max = some 0 then .empty
  else .rep body min max

def refuse {α : Type} (fault : Fault) (span : Span) : Except ParseError α :=
  .error { fault, span }

def foldNegate (s : Settings) (negated : Bool) (set : CharSet) : CharSet :=
  let set := if s.caseless then .folded s.unicode set else set
  if negated then .complement set else set

def UnicodeClass.toSet (s : Settings) (cls : UnicodeClass) : Except ParseError CharSet :=
  if !s.unicode then refuse .unicodeNotAllowed cls.span
  else match cls.query.lookup with
    | .ok p => .ok (foldNegate s cls.negated (.property p))
    | .error .noProperty => refuse .unicodePropertyNotFound cls.span
    | .error .noValue => refuse .unicodePropertyValueNotFound cls.span

def Perl.asciiClass : Perl → AsciiClass
  | .digit => .digit
  | .space => .space
  | .word => .word

def PerlClass.toSet (s : Settings) (cls : PerlClass) : Except ParseError CharSet :=
  if s.unicode then
    .ok (if cls.negated then .complement (.perl cls.kind) else .perl cls.kind)
  else if cls.negated then refuse .invalidUtf8 cls.span
  else .ok (.ascii cls.kind.asciiClass)

mutual

def ClassSet.toSet (s : Settings) : ClassSet → Except ParseError CharSet
  | .empty _ => .ok (.union [])
  | .literal lit => .ok (.range lit.c.toNat lit.c.toNat)
  | .range lo hi _ => .ok (.range lo.c.toNat hi.c.toNat)
  | .ascii kind negated _ => .ok (foldNegate s negated (.ascii kind))
  | .unicode cls => cls.toSet s
  | .perl cls => cls.toSet s
  | .bracket negated body _ => do
    return foldNegate s negated (← body.toSet s)
  | .union items _ => do
    return .union (← ClassSet.listToSet s items)
  | .op kind lhs rhs _ => do
    let a := foldNegate s false (← lhs.toSet s)
    let b := foldNegate s false (← rhs.toSet s)
    return match kind with
      | .intersection => .inter a b
      | .difference => .diff a b
      | .symmetricDifference => .symmDiff a b

def ClassSet.listToSet (s : Settings) : List ClassSet → Except ParseError (List CharSet)
  | [] => .ok []
  | item :: rest => do
    let first ← item.toSet s
    return first :: (← ClassSet.listToSet s rest)

end

def byteRange (lo hi : Nat) : Nat :=
  (List.range 256).foldl (fun m b => if lo ≤ b ∧ b ≤ hi then m ||| Nat.shiftLeft 1 b else m) 0

def allBytes : Nat := byteRange 0 255

def asciiBits (set : CharSet) : Nat :=
  (List.range 128).foldl
    (fun m b => if set.holds (Char.ofNat b) then m ||| Nat.shiftLeft 1 b else m) 0

def foldNegateBytes (s : Settings) (negated : Bool) (span : Span) (mask : Nat) :
    Except ParseError Nat :=
  let mask := if s.caseless then asciiBits (.folded false (.bits mask)) ||| mask else mask
  let mask := if negated then allBytes ^^^ mask else mask
  if mask < Nat.pow 2 128 then .ok mask else refuse .invalidUtf8 span

def Literal.byte (lit : Literal) : Except ParseError Nat :=
  if lit.c.toNat < 128 then .ok lit.c.toNat
  else if lit.hexByte then refuse .invalidUtf8 lit.span
  else refuse .unicodeNotAllowed lit.span

mutual

def ClassSet.toBytes (s : Settings) : ClassSet → Except ParseError Nat
  | .empty _ => .ok 0
  | .literal lit => do
    let b ← lit.byte
    return byteRange b b
  | .range lo hi _ => do
    let a ← lo.byte
    let b ← hi.byte
    return byteRange a b
  | .ascii kind negated span => foldNegateBytes s negated span (asciiBits (.ascii kind))
  | .unicode cls => refuse .unicodeNotAllowed cls.span
  | .perl cls =>
    if cls.negated then refuse .invalidUtf8 cls.span
    else .ok (asciiBits (.ascii cls.kind.asciiClass))
  | .bracket negated body span => do
    foldNegateBytes s negated span (← body.toBytes s)
  | .union items _ => ClassSet.listToBytes s items
  | .op kind lhs rhs _ => do
    let a ← foldNegateBytes s false lhs.span (← lhs.toBytes s)
    let b ← foldNegateBytes s false rhs.span (← rhs.toBytes s)
    return match kind with
      | .intersection => a &&& b
      | .difference => a &&& (allBytes ^^^ b)
      | .symmetricDifference => a ^^^ b

def ClassSet.listToBytes (s : Settings) : List ClassSet → Except ParseError Nat
  | [] => .ok 0
  | item :: rest => do
    let first ← item.toBytes s
    return first ||| (← ClassSet.listToBytes s rest)

end

def Literal.toExpr (s : Settings) (lit : Literal) : Except ParseError Expr :=
  let n := lit.c.toNat
  if s.unicode then
    .ok (.chars (if s.caseless then .folded true (.range n n) else .range n n))
  else if lit.hexByte ∧ 128 ≤ n then refuse .invalidUtf8 lit.span
  else .ok (.chars (if s.caseless ∧ n < 128 then .folded false (.range n n) else .range n n))

def dotExpr (s : Settings) (span : Span) : Except ParseError Expr :=
  if !s.unicode then refuse .invalidUtf8 span
  else if s.dotAll then .ok (.chars .any)
  else if s.crlf then .ok (.chars (.complement (.union [.range 10 10, .range 13 13])))
  else .ok (.chars (.complement (.range 10 10)))

def Assertion.toLook (s : Settings) (span : Span) : Assertion → Except ParseError Look
  | .lineStart => .ok (if s.multiLine then .lineStart s.crlf else .textStart)
  | .lineEnd => .ok (if s.multiLine then .lineEnd s.crlf else .textEnd)
  | .textStart => .ok .textStart
  | .textEnd => .ok .textEnd
  | .wordBoundary => .ok (.word s.unicode)
  | .notWordBoundary => if s.unicode then .ok .notWord else refuse .invalidUtf8 span
  | .wordStart => .ok (.wordStart s.unicode)
  | .wordEnd => .ok (.wordEnd s.unicode)
  | .wordStartHalf => .ok (.wordStartHalf s.unicode)
  | .wordEndHalf => .ok (.wordEndHalf s.unicode)

def bracketExpr (s : Settings) (negated : Bool) (body : ClassSet) (span : Span) :
    Except ParseError Expr := do
  if s.unicode then
    return .chars (foldNegate s negated (← body.toSet s))
  else
    return .chars (.bits (← foldNegateBytes s negated span (← body.toBytes s)))

mutual

def Ast.toExpr (s : Settings) : Ast → Except ParseError (Expr × Settings)
  | .empty _ => .ok (.empty, s)
  | .flags items _ => .ok (.empty, s.apply items)
  | .literal lit => do return (← lit.toExpr s, s)
  | .dot span => do return (← dotExpr s span, s)
  | .assertion kind span => do return (.look (← kind.toLook s span), s)
  | .perl cls => do return (.chars (← cls.toSet s), s)
  | .unicode cls => do return (.chars (← cls.toSet s), s)
  | .bracket negated body span => do return (← bracketExpr s negated body span, s)
  | .repetition body min max _ _ => do
    let (e, _) ← body.toExpr s
    return (e.repeat min max, s)
  | .group kind body _ => do
    let inner := match kind with
      | .flagged items => s.apply items
      | _ => s
    let (e, _) ← body.toExpr inner
    return (match kind with
      | .flagged _ => e
      | _ => .capture e, s)
  | .alternation branches _ => do
    let (es, s) ← Ast.listToExpr s branches
    return (.alt es, s)
  | .concat parts _ => do
    let (es, s) ← Ast.listToExpr s parts
    return (.concat es, s)

def Ast.listToExpr (s : Settings) : List Ast → Except ParseError (List Expr × Settings)
  | [] => .ok ([], s)
  | a :: rest => do
    let (e, s) ← a.toExpr s
    let (es, s) ← Ast.listToExpr s rest
    return (e :: es, s)

end

def utf8Width (n : Nat) : Nat :=
  if n < 0x80 then 1 else if n < 0x800 then 2 else if n < 0x10000 then 3 else 4

mutual

def CharSet.wide : CharSet → Bool
  | .range _ hi => 128 ≤ hi
  | .ascii _ | .bits _ => false
  | .property p => p != .ascii
  | .perl _ | .complement _ => true
  | .union parts => CharSet.anyWide parts
  | .inter a b => a.wide && b.wide
  | .diff a _ => a.wide
  | .symmDiff a b => a.wide || b.wide
  | .folded unicode s => s.wide || unicode

def CharSet.anyWide : List CharSet → Bool
  | [] => false
  | s :: rest => s.wide || CharSet.anyWide rest

end

def stateBytes : Nat := 32

def CharSet.size (set : CharSet) : Nat :=
  if !set.wide then
    let runs := ((List.range 128).filter fun b =>
      set.holds (Char.ofNat b) && (b = 0 || !set.holds (Char.ofNat (b - 1)))).length
    if runs ≤ 1 then stateBytes else stateBytes + 8 * runs
  else match set with
    | .range lo hi => if lo = hi then stateBytes * utf8Width lo else 480
    | .folded _ (.range lo hi) => if lo = hi then 2 * stateBytes * utf8Width lo + 16 else 960
    | .perl .digit | .complement (.perl .digit) => 4000
    | .perl .space | .complement (.perl .space) => 800
    | .perl .word | .complement (.perl .word) => 30000
    | .property _ => 20000
    | _ => 480

mutual

def Expr.size : Expr → Nat
  | .empty | .look _ => stateBytes
  | .chars set => set.size
  | .concat [] => stateBytes
  | .concat parts => Expr.sizeAll parts
  | .alt branches => Expr.sizeAll branches + 2 * stateBytes + 4 * branches.length
  | .rep body min max =>
    let b := body.size
    match max with
    | some hi => min * b + (hi - min) * (b + stateBytes + 8) + (if min < hi then stateBytes else 0)
    | none => if min = 0 then b + 2 * stateBytes + 8 else min * b + stateBytes + 8
  | .capture body => body.size + 2 * stateBytes

def Expr.sizeAll : List Expr → Nat
  | [] => 0
  | e :: rest => e.size + Expr.sizeAll rest

end

def Expr.patternSize (e : Expr) : Nat :=
  (Expr.capture e).size + 3 * stateBytes + 8

end TaskTree.Regex
