import TaskTree.Regex.Error
import TaskTree.Regex.Property

namespace TaskTree.Regex

set_option autoImplicit false

inductive Flag where
  | caseless
  | multiLine
  | dotAll
  | swapGreed
  | unicode
  | crlf
  | verbose
deriving DecidableEq, Inhabited

inductive FlagItem where
  | negation
  | flag (f : Flag)
deriving DecidableEq, Inhabited

def flagState (items : List FlagItem) (f : Flag) : Option Bool :=
  let rec go (negated : Bool) : List FlagItem → Option Bool
    | [] => none
    | .negation :: rest => go true rest
    | .flag g :: rest => if g = f then some !negated else go negated rest
  go false items

structure Literal where
  c : Char
  hexByte : Bool
  span : Span
deriving Inhabited

inductive Assertion where
  | lineStart
  | lineEnd
  | textStart
  | textEnd
  | wordBoundary
  | notWordBoundary
  | wordStart
  | wordEnd
  | wordStartHalf
  | wordEndHalf
deriving DecidableEq, Inhabited

structure PerlClass where
  kind : Perl
  negated : Bool
  span : Span
deriving Inhabited

structure UnicodeClass where
  negated : Bool
  query : PropertyQuery
  span : Span
deriving Inhabited

inductive SetOp where
  | intersection
  | difference
  | symmetricDifference
deriving DecidableEq, Inhabited

inductive ClassSet where
  | empty (span : Span)
  | literal (lit : Literal)
  | range (lo hi : Literal) (span : Span)
  | ascii (kind : AsciiClass) (negated : Bool) (span : Span)
  | unicode (cls : UnicodeClass)
  | perl (cls : PerlClass)
  | bracket (negated : Bool) (body : ClassSet) (span : Span)
  | union (items : List ClassSet) (span : Span)
  | op (kind : SetOp) (lhs rhs : ClassSet) (span : Span)
deriving Inhabited

def ClassSet.span : ClassSet → Span
  | .empty s | .range _ _ s | .ascii _ _ s | .bracket _ _ s | .union _ s | .op _ _ _ s => s
  | .literal lit => lit.span
  | .unicode cls => cls.span
  | .perl cls => cls.span

inductive GroupKind where
  | capture
  | named (name : String)
  | flagged (items : List FlagItem)
deriving Inhabited

inductive Ast where
  | empty (span : Span)
  | flags (items : List FlagItem) (span : Span)
  | literal (lit : Literal)
  | dot (span : Span)
  | assertion (kind : Assertion) (span : Span)
  | perl (cls : PerlClass)
  | unicode (cls : UnicodeClass)
  | bracket (negated : Bool) (body : ClassSet) (span : Span)
  | repetition (body : Ast) (min : Nat) (max : Option Nat) (greedy : Bool) (span : Span)
  | group (kind : GroupKind) (body : Ast) (span : Span)
  | alternation (branches : List Ast) (span : Span)
  | concat (parts : List Ast) (span : Span)
deriving Inhabited

def Ast.span : Ast → Span
  | .empty s | .flags _ s | .dot s | .assertion _ s | .bracket _ _ s | .repetition _ _ _ _ s
  | .group _ _ s | .alternation _ s | .concat _ s => s
  | .literal lit => lit.span
  | .perl cls => cls.span
  | .unicode cls => cls.span

end TaskTree.Regex
