import TaskTree.Regex.Expr

namespace TaskTree.Regex

set_option autoImplicit false

inductive Inst where
  | test (set : CharSet)
  | fork (a b : Nat)
  | jump (a : Nat)
  | look (l : Look)
deriving Inhabited

abbrev Program := Array Inst

def Inst.shift (k : Nat) : Inst → Inst
  | .fork a b => .fork (a + k) (b + k)
  | .jump a => .jump (a + k)
  | i => i

def Program.shift (p : Program) (k : Nat) : Program := p.map (Inst.shift k)

def Program.andThen (p q : Program) : Program := p ++ q.shift p.size

def Program.times (p : Program) (n : Nat) : Program :=
  (List.range n).foldl (fun acc _ => acc.andThen p) #[]

def Program.optional (p : Program) : Program :=
  #[.fork 1 (p.size + 1)] ++ p.shift 1

def Program.star (p : Program) : Program :=
  #[.fork 1 (p.size + 2)] ++ p.shift 1 ++ #[.jump 0]

def Program.orElse (p q : Program) : Program :=
  #[.fork 1 (p.size + 2)] ++ p.shift 1 ++ #[.jump (p.size + 2 + q.size)] ++ q.shift (p.size + 2)

mutual

def Expr.program : Expr → Program
  | .empty => #[]
  | .chars set => #[.test set]
  | .look l => #[.look l]
  | .concat parts => Expr.programSeq parts
  | .alt branches => Expr.programAlt branches
  | .rep body min max =>
    let p := body.program
    let fixed := p.times min
    match max with
    | some hi => fixed.andThen (p.optional.times (hi - min))
    | none => fixed.andThen p.star
  | .capture body => body.program

def Expr.programSeq : List Expr → Program
  | [] => #[]
  | e :: rest => e.program.andThen (Expr.programSeq rest)

def Expr.programAlt : List Expr → Program
  | [] => #[]
  | [e] => e.program
  | e :: rest => e.program.orElse (Expr.programAlt rest)

end

def isWordChar (unicode : Bool) (c : Char) : Bool :=
  if unicode then Perl.word.holds c else AsciiClass.word.holds c

def Look.holds (l : Look) (before after : Option Char) : Bool :=
  let word (u : Bool) (c : Option Char) : Bool := (c.map (isWordChar u)).getD false
  match l with
  | .textStart => before.isNone
  | .textEnd => after.isNone
  | .lineStart false => before.isNone || before == some '\n'
  | .lineStart true =>
    before.isNone || before == some '\n' || (before == some '\r' && after != some '\n')
  | .lineEnd false => after.isNone || after == some '\n'
  | .lineEnd true =>
    after.isNone || after == some '\r' || (after == some '\n' && before != some '\r')
  | .word u => word u before != word u after
  | .notWord => word true before == word true after
  | .wordStart u => !word u before && word u after
  | .wordEnd u => word u before && !word u after
  | .wordStartHalf u => !word u before
  | .wordEndHalf u => !word u after

def closure (prog : Program) (before after : Option Char) :
    Nat → List Nat → Array Bool → Array Nat → Array Bool × Array Nat
  | 0, _, seen, found => (seen, found)
  | _, [], seen, found => (seen, found)
  | fuel + 1, pc :: rest, seen, found =>
    if seen[pc]?.getD true then closure prog before after fuel rest seen found
    else
      let seen := seen.set! pc true
      match prog[pc]? with
      | some (.fork a b) => closure prog before after fuel (a :: b :: rest) seen found
      | some (.jump a) => closure prog before after fuel (a :: rest) seen found
      | some (.look l) =>
        if l.holds before after then closure prog before after fuel ((pc + 1) :: rest) seen found
        else closure prog before after fuel rest seen found
      | _ => closure prog before after fuel rest seen (found.push pc)

def advance (prog : Program) (before after : Option Char) (threads : Array Nat) : Array Nat :=
  let todo := threads.toList ++ [0]
  (closure prog before after (3 * prog.size + todo.length + 3) todo
    (Array.replicate (prog.size + 1) false) #[]).2

def run (prog : Program) (before : Option Char) : List Char → Array Nat → Bool
  | [], threads => (advance prog before none threads).contains prog.size
  | c :: rest, threads =>
    let now := advance prog before (some c) threads
    if now.contains prog.size then true
    else
      let next := now.filterMap fun pc => match prog[pc]? with
        | some (Inst.test set) => if set.holds c then some (pc + 1) else none
        | _ => none
      run prog (some c) rest next

def sizeLimit : Nat := 10 * 1024 * 1024

inductive CompileError where
  | refused (e : ParseError)
  | tooBig (limit : Nat)

def CompileError.render (pattern : String) : CompileError → String
  | .refused e => e.render pattern
  | .tooBig limit => "Compiled regex exceeds size limit of " ++ toString limit ++ " bytes."

end TaskTree.Regex

namespace TaskTree

structure Regex where
  pattern : String
  program : Regex.Program

namespace Regex

def meaning (pattern : String) : Except CompileError Expr := do
  let ast ← (Regex.parse pattern).mapError .refused
  let (e, _) ← (ast.toExpr {}).mapError .refused
  if sizeLimit < e.patternSize then throw (.tooBig sizeLimit)
  return e

def compile (pattern : String) : Except String Regex :=
  match meaning pattern with
  | .ok e => .ok ⟨pattern, e.program⟩
  | .error err => .error (err.render pattern)

def isMatch (r : Regex) (text : String) : Bool :=
  Regex.run r.program none text.toList #[]

end Regex

end TaskTree
