import TaskTree.Json.Print
import TaskTree.Text.Alnum

namespace TaskTree

set_option autoImplicit false

inductive Token.Segment where
  | text (s : String)
  | path (p : String)
deriving DecidableEq, Repr

inductive Token where
  | literal (s : String)
  | reference (path : String)
  | template (segments : List Token.Segment)
deriving DecidableEq, Repr

namespace Token

def sigil : Char := '•'

def isPathChar (c : Char) : Bool :=
  Text.isAlnum c || c = '.' || c = '_' || c = '-' || c = '$'

def isPath (s : String) : Bool :=
  match s.toList with
  | [] => false
  | c :: _ => (c.isAlpha || c = '_') && s.toList.all isPathChar

def splitAtOpener : List Char → Option (List Char × List Char)
  | [] => none
  | [_] => none
  | c :: d :: rest =>
    if c = sigil ∧ d = '{' then some ([], rest)
    else (splitAtOpener (d :: rest)).map fun (before, after) => (c :: before, after)

def hasOpener (cs : List Char) : Bool :=
  (splitAtOpener cs).isSome

def segments (fuel : Nat) (rest : List Char) : List Segment :=
  match fuel with
  | 0 => if rest.isEmpty then [] else [.text (String.ofList rest)]
  | fuel + 1 =>
    match splitAtOpener rest with
    | none => if rest.isEmpty then [] else [.text (String.ofList rest)]
    | some (before, after) =>
      match after.span (· ≠ '}') with
      | (_, []) => [.text (String.ofList rest)]
      | (inside, _ :: tail) =>
        let path := Segment.path (Text.trimBlank (String.ofList inside))
        let head := if before.isEmpty then [path] else [.text (String.ofList before), path]
        head ++ segments fuel tail

def parse (input : String) : Token :=
  match input.toList with
  | c :: rest =>
    if c = sigil ∧ isPath (String.ofList rest) then .reference (String.ofList rest)
    else if hasOpener input.toList then .template (segments input.length input.toList)
    else .literal input
  | [] => .literal input

def render : Json → String
  | .null => ""
  | .str s => s
  | other => other.compact

def splitPath (path : String) : String × Option String :=
  match path.toList.span (· ≠ '.') with
  | (head, []) => (String.ofList head, none)
  | (head, _ :: rest) => (String.ofList head, some (String.ofList rest))

def parseIndex (s : String) : Option Nat :=
  let digits := match s.toList with
    | '+' :: rest => rest
    | other => other
  if !digits.isEmpty ∧ digits.all Char.isDigit then
    let n := digits.foldl (fun acc c => acc * 10 + (c.toNat - 48)) 0
    if n < Nat.pow 2 64 then some n else none
  else none

def step (v : Json) (part : String) : Option Json :=
  match v with
  | .obj fields => KeyMap.find? fields part
  | .arr items => (parseIndex part).bind fun i => items[i]?
  | _ => none

def pathParts (path : String) : List String :=
  (path.toList.splitOn '.').map String.ofList

def valueAtPath (root : Json) (path : String) : Option Json :=
  (pathParts path).foldlM step root

def substitute (input : String) (resolve : String → Option Json) : Json :=
  match parse input with
  | .literal s => .str s
  | .reference path => (resolve path).getD .null
  | .template segs =>
    .str (segs.foldl (fun acc seg => match seg with
      | .text s => acc ++ s
      | .path p => acc ++ render ((resolve p).getD .null)) "")

theorem render_str (s : String) : render (.str s) = s := rfl

theorem parse_literal (input : String) (first : input.toList.head? ≠ some sigil)
    (plain : hasOpener input.toList = false) : parse input = .literal input := by
  unfold parse
  split
  · rename_i c rest h
    have : c ≠ sigil := by
      intro same
      apply first
      simp [h, same]
    simp [this, plain]
  · rfl

end Token

end TaskTree
