namespace TaskTree.Regex

set_option autoImplicit false

structure Span where
  start : Nat
  stop : Nat
deriving DecidableEq, Inhabited

inductive Fault where
  | classEscapeInvalid
  | classRangeInvalid
  | classRangeLiteral
  | classUnclosed
  | decimalInvalid
  | escapeHexEmpty
  | escapeHexInvalid
  | escapeHexInvalidDigit
  | escapeUnexpectedEof
  | escapeUnrecognized
  | flagDanglingNegation
  | flagDuplicate
  | flagRepeatedNegation
  | flagUnexpectedEof
  | flagUnrecognized
  | groupNameDuplicate
  | groupNameEmpty
  | groupNameInvalid
  | groupNameUnexpectedEof
  | groupUnclosed
  | groupUnopened
  | nestLimitExceeded (limit : Nat)
  | repetitionCountInvalid
  | repetitionCountDecimalEmpty
  | repetitionCountUnclosed
  | repetitionMissing
  | specialWordBoundaryUnclosed
  | specialWordBoundaryUnrecognized
  | specialWordOrRepetitionUnexpectedEof
  | unicodeClassInvalid
  | unsupportedBackreference
  | unsupportedLookAround
  | unicodeNotAllowed
  | invalidUtf8
  | unicodePropertyNotFound
  | unicodePropertyValueNotFound
deriving DecidableEq, Inhabited

def Fault.message : Fault → String
  | .classEscapeInvalid => "invalid escape sequence found in character class"
  | .classRangeInvalid => "invalid character class range, the start must be <= the end"
  | .classRangeLiteral => "invalid range boundary, must be a literal"
  | .classUnclosed => "unclosed character class"
  | .decimalInvalid => "decimal literal invalid"
  | .escapeHexEmpty => "hexadecimal literal empty"
  | .escapeHexInvalid => "hexadecimal literal is not a Unicode scalar value"
  | .escapeHexInvalidDigit => "invalid hexadecimal digit"
  | .escapeUnexpectedEof => "incomplete escape sequence, reached end of pattern prematurely"
  | .escapeUnrecognized => "unrecognized escape sequence"
  | .flagDanglingNegation => "dangling flag negation operator"
  | .flagDuplicate => "duplicate flag"
  | .flagRepeatedNegation => "flag negation operator repeated"
  | .flagUnexpectedEof => "expected flag but got end of regex"
  | .flagUnrecognized => "unrecognized flag"
  | .groupNameDuplicate => "duplicate capture group name"
  | .groupNameEmpty => "empty capture group name"
  | .groupNameInvalid => "invalid capture group character"
  | .groupNameUnexpectedEof => "unclosed capture group name"
  | .groupUnclosed => "unclosed group"
  | .groupUnopened => "unopened group"
  | .nestLimitExceeded limit =>
    "exceed the maximum number of nested parentheses/brackets (" ++ toString limit ++ ")"
  | .repetitionCountInvalid => "invalid repetition count range, the start must be <= the end"
  | .repetitionCountDecimalEmpty => "repetition quantifier expects a valid decimal"
  | .repetitionCountUnclosed => "unclosed counted repetition"
  | .repetitionMissing => "repetition operator missing expression"
  | .specialWordBoundaryUnclosed =>
    "special word boundary assertion is either unclosed or contains an invalid character"
  | .specialWordBoundaryUnrecognized =>
    "unrecognized special word boundary assertion, valid choices are: start, end, " ++
      "start-half or end-half"
  | .specialWordOrRepetitionUnexpectedEof =>
    "found either the beginning of a special word boundary or a bounded repetition on a " ++
      "\\b with an opening brace, but no closing brace"
  | .unicodeClassInvalid => "invalid Unicode character class"
  | .unsupportedBackreference => "backreferences are not supported"
  | .unsupportedLookAround =>
    "look-around, including look-ahead and look-behind, is not supported"
  | .unicodeNotAllowed => "Unicode not allowed here"
  | .invalidUtf8 => "pattern can match invalid UTF-8"
  | .unicodePropertyNotFound => "Unicode property not found"
  | .unicodePropertyValueNotFound => "Unicode property value not found"

structure ParseError where
  fault : Fault
  span : Span
  earlier : Option Span := none
deriving Inhabited

structure Place where
  line : Nat
  column : Nat
deriving DecidableEq, Inhabited

def placeOf (chars : List Char) (index : Nat) : Place :=
  (chars.take index).foldl
    (fun p c => if c = '\n' then ⟨p.line + 1, 1⟩ else ⟨p.line, p.column + 1⟩) ⟨1, 1⟩

def patternLines (chars : List Char) : List (List Char) :=
  let pieces := (chars.splitOn '\n')
  let pieces := if chars.getLast? = some '\n' then pieces.dropLast else pieces
  let pieces := if chars.isEmpty then [] else pieces
  pieces.zipIdx.map fun (piece, k) =>
    if k + 1 < pieces.length || chars.getLast? = some '\n' then
      if piece.getLast? = some '\r' then piece.dropLast else piece
    else piece

def decimalText (n : Nat) : String := toString n

def blanks (n : Nat) : String := String.ofList (List.replicate n ' ')

def caretLine (padding : Nat) (spans : List (Place × Place)) : String :=
  let (text, _) := spans.foldl (fun (acc : String × Nat) (s, e) =>
    let (text, pos) := acc
    let gap := (s.column - 1) - pos
    let width := max 1 (e.column - s.column)
    (text ++ blanks gap ++ String.ofList (List.replicate width '^'), pos + gap + width))
    (blanks padding, 0)
  text

def Span.before (a b : Span) : Bool :=
  a.start < b.start || (a.start = b.start && a.stop < b.stop)

def notate (chars : List Char) (width : Nat) (spans : List Span) : String :=
  let padding := if width = 0 then 4 else 2 + width
  let lines := patternLines chars
  let places := spans.map fun s => (placeOf chars s.start, placeOf chars s.stop)
  (lines.zipIdx.map fun (line, k) =>
    let number := decimalText (k + 1)
    let head := if width = 0 then "    "
      else blanks (width - number.length) ++ number ++ ": "
    let mine := places.filter fun (s, e) => s.line = k + 1 && e.line = k + 1
    let carets := if mine.isEmpty then "" else caretLine padding mine ++ "\n"
    head ++ String.ofList line ++ "\n" ++ carets).foldl (· ++ ·) ""

def ParseError.render (e : ParseError) (pattern : String) : String :=
  let chars := pattern.toList
  let spans := match e.earlier with
    | some a => if a.before e.span then [a, e.span] else [e.span, a]
    | none => [e.span]
  let lineCount := (patternLines chars).length + (if chars.getLast? = some '\n' then 1 else 0)
  let width := if lineCount ≤ 1 then 0 else (decimalText lineCount).length
  let notated := notate chars width spans
  if chars.contains '\n' then
    let divider := String.ofList (List.replicate 79 '~')
    let crossing := spans.filterMap fun s =>
      let a := placeOf chars s.start
      let b := placeOf chars s.stop
      if a.line = b.line then none
      else some ("on line " ++ decimalText a.line ++ " (column " ++ decimalText a.column ++
        ") through line " ++ decimalText b.line ++ " (column " ++ decimalText (b.column - 1) ++
        ")")
    let notes := if crossing.isEmpty then "" else String.intercalate "\n" crossing ++ "\n"
    "regex parse error:\n" ++ divider ++ "\n" ++ notated ++ divider ++ "\n" ++ notes ++
      "error: " ++ e.fault.message
  else
    "regex parse error:\n" ++ notated ++ "error: " ++ e.fault.message

end TaskTree.Regex
