import TaskTree.Text.Alnum

namespace TaskTree.Regex

set_option autoImplicit false

inductive Perl where
  | digit
  | word
  | space
deriving DecidableEq, Inhabited

inductive AsciiClass where
  | alnum
  | alpha
  | ascii
  | blank
  | cntrl
  | digit
  | graph
  | lower
  | print
  | punct
  | space
  | upper
  | word
  | xdigit
deriving DecidableEq, Inhabited

def AsciiClass.ofName? : String → Option AsciiClass
  | "alnum" => some .alnum
  | "alpha" => some .alpha
  | "ascii" => some .ascii
  | "blank" => some .blank
  | "cntrl" => some .cntrl
  | "digit" => some .digit
  | "graph" => some .graph
  | "lower" => some .lower
  | "print" => some .print
  | "punct" => some .punct
  | "space" => some .space
  | "upper" => some .upper
  | "word" => some .word
  | "xdigit" => some .xdigit
  | _ => none

def AsciiClass.ranges : AsciiClass → List (Nat × Nat)
  | .alnum => [(0x30, 0x39), (0x41, 0x5A), (0x61, 0x7A)]
  | .alpha => [(0x41, 0x5A), (0x61, 0x7A)]
  | .ascii => [(0x00, 0x7F)]
  | .blank => [(0x09, 0x09), (0x20, 0x20)]
  | .cntrl => [(0x00, 0x1F), (0x7F, 0x7F)]
  | .digit => [(0x30, 0x39)]
  | .graph => [(0x21, 0x7E)]
  | .lower => [(0x61, 0x7A)]
  | .print => [(0x20, 0x7E)]
  | .punct => [(0x21, 0x2F), (0x3A, 0x40), (0x5B, 0x60), (0x7B, 0x7E)]
  | .space => [(0x09, 0x0D), (0x20, 0x20)]
  | .upper => [(0x41, 0x5A)]
  | .word => [(0x30, 0x39), (0x41, 0x5A), (0x5F, 0x5F), (0x61, 0x7A)]
  | .xdigit => [(0x30, 0x39), (0x41, 0x46), (0x61, 0x66)]

def inSpans (ranges : List (Nat × Nat)) (n : Nat) : Bool :=
  ranges.any fun (lo, hi) => lo ≤ n && n ≤ hi

def AsciiClass.holds (k : AsciiClass) (c : Char) : Bool :=
  inSpans k.ranges c.toNat

def decimalStarts : List Nat :=
  [0x30, 0x660, 0x6F0, 0x7C0, 0x966, 0x9E6, 0xA66, 0xAE6, 0xB66, 0xBE6, 0xC66, 0xCE6, 0xD66,
    0xDE6, 0xE50, 0xED0, 0xF20, 0x1040, 0x1090, 0x17E0, 0x1810, 0x1946, 0x19D0, 0x1A80,
    0x1A90, 0x1B50, 0x1BB0, 0x1C40, 0x1C50, 0xA620, 0xA8D0, 0xA900, 0xA9D0, 0xA9F0, 0xAA50,
    0xABF0, 0xFF10, 0x104A0, 0x10D30, 0x11066, 0x110F0, 0x11136, 0x111D0, 0x112F0, 0x11450,
    0x114D0, 0x11650, 0x116C0, 0x11730, 0x118E0, 0x11950, 0x11C50, 0x11D50, 0x11DA0,
    0x11F50, 0x16A60, 0x16AC0, 0x16B50, 0x1D7CE, 0x1D7D8, 0x1D7E2, 0x1D7EC, 0x1D7F6,
    0x1E140, 0x1E2F0, 0x1E4F0, 0x1E950, 0x1FBF0]

def isDecimal (c : Char) : Bool :=
  let n := c.toNat
  decimalStarts.any fun s => s ≤ n && n < s + 10

def markRanges : List (Nat × Nat) :=
  [(0x300, 0x36F), (0x483, 0x489), (0x591, 0x5BD), (0x610, 0x61A), (0x64B, 0x65F),
    (0x900, 0x903), (0x93A, 0x94F), (0x1AB0, 0x1AFF), (0x1DC0, 0x1DFF), (0x20D0, 0x20F0),
    (0xFE00, 0xFE0F), (0xFE20, 0xFE2F)]

def isMark (c : Char) : Bool := inSpans markRanges c.toNat

def connectorRanges : List (Nat × Nat) :=
  [(0x5F, 0x5F), (0x203F, 0x2040), (0x2054, 0x2054), (0xFE33, 0xFE34), (0xFE4D, 0xFE4F),
    (0xFF3F, 0xFF3F)]

def otherNumberRanges : List (Nat × Nat) :=
  [(0xB2, 0xB3), (0xB9, 0xB9), (0xBC, 0xBE), (0x9F4, 0x9F9), (0xB72, 0xB77), (0xBF0, 0xBF2),
    (0xC78, 0xC7E), (0xD58, 0xD5E), (0xD70, 0xD78), (0xF2A, 0xF33), (0x1369, 0x137C),
    (0x17F0, 0x17F9), (0x19DA, 0x19DA), (0x2070, 0x2070), (0x2074, 0x2079), (0x2080, 0x2089),
    (0x2150, 0x215F), (0x2189, 0x2189), (0x2460, 0x249B), (0x24EA, 0x24FF), (0x2776, 0x2793),
    (0x2CFD, 0x2CFD), (0x3192, 0x3195), (0x3220, 0x3229), (0x3248, 0x324F), (0x3251, 0x325F),
    (0x3280, 0x3289), (0x32B1, 0x32BF), (0xA830, 0xA835)]

def isWord (c : Char) : Bool :=
  (Text.isAlnum c && !inSpans otherNumberRanges c.toNat) || isMark c ||
    inSpans connectorRanges c.toNat || c.toNat = 0x200C || c.toNat = 0x200D

def Perl.holds : Perl → Char → Bool
  | .digit, c => isDecimal c
  | .word, c => isWord c
  | .space, c => Text.isBlank c

def otherCase (c : Char) : Char :=
  let n := c.toNat
  if 0x61 ≤ n ∧ n ≤ 0x7A then Char.ofNat (n - 32)
  else if 0x41 ≤ n ∧ n ≤ 0x5A then Char.ofNat (n + 32)
  else if 0xE0 ≤ n ∧ n ≤ 0xFE ∧ n ≠ 0xF7 then Char.ofNat (n - 32)
  else if 0xC0 ≤ n ∧ n ≤ 0xDE ∧ n ≠ 0xD7 then Char.ofNat (n + 32)
  else if 0x3B1 ≤ n ∧ n ≤ 0x3C9 ∧ n ≠ 0x3C2 then Char.ofNat (n - 32)
  else if 0x391 ≤ n ∧ n ≤ 0x3A9 ∧ n ≠ 0x3A2 then Char.ofNat (n + 32)
  else if 0x430 ≤ n ∧ n ≤ 0x44F then Char.ofNat (n - 32)
  else if 0x410 ≤ n ∧ n ≤ 0x42F then Char.ofNat (n + 32)
  else if 0x450 ≤ n ∧ n ≤ 0x45F then Char.ofNat (n - 80)
  else if 0x400 ≤ n ∧ n ≤ 0x40F then Char.ofNat (n + 80)
  else c

def isUpper (c : Char) : Bool := c.toNat < (otherCase c).toNat

def isLower (c : Char) : Bool := (otherCase c).toNat < c.toNat

def numberRanges : List (Nat × Nat) :=
  [(0xB2, 0xB3), (0xB9, 0xB9), (0xBC, 0xBE), (0x2070, 0x2070), (0x2074, 0x2079),
    (0x2080, 0x2089), (0x2150, 0x2182), (0x2185, 0x2189), (0x2460, 0x249B),
    (0x24EA, 0x24FF), (0x2776, 0x2793), (0x3007, 0x3007), (0x3021, 0x3029)]

def isNumber (c : Char) : Bool := isDecimal c || inSpans numberRanges c.toNat

def isLetter (c : Char) : Bool := Text.isAlnum c && !isNumber c && !isMark c

def punctRanges : List (Nat × Nat) :=
  [(0x21, 0x23), (0x25, 0x2A), (0x2C, 0x2F), (0x3A, 0x3B), (0x3F, 0x40), (0x5B, 0x5D),
    (0x5F, 0x5F), (0x7B, 0x7B), (0x7D, 0x7D), (0xA1, 0xA1), (0xA7, 0xA7), (0xAB, 0xAB),
    (0xB6, 0xB7), (0xBB, 0xBB), (0xBF, 0xBF), (0x2010, 0x2027), (0x2030, 0x2043),
    (0x2045, 0x2051), (0x2053, 0x205E), (0x3001, 0x3003), (0x3008, 0x3011),
    (0xFF01, 0xFF03), (0xFF05, 0xFF0A), (0xFF0C, 0xFF0F)]

def symbolRanges : List (Nat × Nat) :=
  [(0x24, 0x24), (0x2B, 0x2B), (0x3C, 0x3E), (0x5E, 0x5E), (0x60, 0x60), (0x7C, 0x7C),
    (0x7E, 0x7E), (0xA2, 0xA6), (0xA8, 0xA9), (0xAC, 0xAC), (0xAE, 0xB1), (0xB4, 0xB4),
    (0xB8, 0xB8), (0xD7, 0xD7), (0xF7, 0xF7), (0x20A0, 0x20C0), (0x2100, 0x214F),
    (0x2190, 0x23FF), (0x25A0, 0x27BF), (0x2900, 0x2BFF), (0x1F300, 0x1FAFF)]

def separatorRanges : List (Nat × Nat) :=
  [(0x20, 0x20), (0xA0, 0xA0), (0x1680, 0x1680), (0x2000, 0x200A), (0x2028, 0x2029),
    (0x202F, 0x202F), (0x205F, 0x205F), (0x3000, 0x3000)]

def otherRanges : List (Nat × Nat) :=
  [(0x00, 0x1F), (0x7F, 0x9F), (0xAD, 0xAD), (0x200B, 0x200F), (0x202A, 0x202E),
    (0x2060, 0x2064), (0xFEFF, 0xFEFF), (0xE000, 0xF8FF)]

def latinRanges : List (Nat × Nat) :=
  [(0x1E00, 0x1EFF), (0x2C60, 0x2C7F), (0xA720, 0xA7FF), (0xFF21, 0xFF3A), (0xFF41, 0xFF5A)]

def greekRanges : List (Nat × Nat) :=
  [(0x370, 0x37D), (0x37F, 0x386), (0x388, 0x3E1), (0x3F0, 0x3FF), (0x1F00, 0x1FFE)]

def cyrillicRanges : List (Nat × Nat) :=
  [(0x400, 0x52F), (0x1C80, 0x1C8F), (0x2DE0, 0x2DFF), (0xA640, 0xA69F)]

def hanRanges : List (Nat × Nat) :=
  [(0x2E80, 0x2FD5), (0x3005, 0x3005), (0x3007, 0x3007), (0x3021, 0x3029), (0x3038, 0x303B),
    (0x3400, 0x4DBF), (0x4E00, 0x9FFF), (0xF900, 0xFAFF), (0x20000, 0x3134F)]

inductive Property where
  | any
  | ascii
  | letter
  | upper
  | lower
  | cased
  | mark
  | number
  | decimal
  | punct
  | symbol
  | separator
  | spaceSeparator
  | control
  | other
  | alphabetic
  | whiteSpace
  | latin
  | greek
  | cyrillic
  | han
deriving DecidableEq, Inhabited

def Property.holds (p : Property) (c : Char) : Bool :=
  let n := c.toNat
  match p with
  | .any => true
  | .ascii => n < 0x80
  | .letter => isLetter c
  | .upper => isLetter c && isUpper c
  | .lower => isLetter c && isLower c
  | .cased => isLetter c && (isUpper c || isLower c)
  | .mark => isMark c
  | .number => isNumber c
  | .decimal => isDecimal c
  | .punct => inSpans punctRanges n
  | .symbol => inSpans symbolRanges n
  | .separator => inSpans separatorRanges n
  | .spaceSeparator => inSpans separatorRanges n && n != 0x2028 && n != 0x2029
  | .control => n < 0x20 || (0x7F ≤ n && n ≤ 0x9F)
  | .other => inSpans otherRanges n
  | .alphabetic => Text.isAlnum c && !isNumber c
  | .whiteSpace => Text.isBlank c
  | .latin => (isLetter c && n < 0x250) || inSpans latinRanges n
  | .greek => inSpans greekRanges n
  | .cyrillic => inSpans cyrillicRanges n
  | .han => inSpans hanRanges n

def normalizeName (name : String) : String :=
  let cs := name.toList
  let (prefixed, cs) := match cs with
    | a :: b :: rest => if a.toLower = 'i' ∧ b.toLower = 's' then (true, rest) else (false, cs)
    | _ => (false, cs)
  let kept := cs.filterMap fun c =>
    if c = ' ' ∨ c = '_' ∨ c = '-' ∨ c.toNat ≥ 128 then none else some c.toLower
  if prefixed ∧ kept = ['c'] then "isc" else String.ofList kept

def categoryOf? : String → Option Property
  | "l" | "letter" => some .letter
  | "lu" | "uppercaseletter" => some .upper
  | "ll" | "lowercaseletter" => some .lower
  | "lc" | "casedletter" | "l&" => some .cased
  | "m" | "mark" | "combiningmark" => some .mark
  | "n" | "number" => some .number
  | "nd" | "decimalnumber" | "digit" => some .decimal
  | "p" | "punctuation" | "punct" => some .punct
  | "s" | "symbol" => some .symbol
  | "z" | "separator" => some .separator
  | "zs" | "spaceseparator" => some .spaceSeparator
  | "cc" | "control" | "cntrl" => some .control
  | "c" | "other" => some .other
  | _ => none

def scriptOf? : String → Option Property
  | "latin" | "latn" => some .latin
  | "greek" | "grek" => some .greek
  | "cyrillic" | "cyrl" => some .cyrillic
  | "han" | "hani" => some .han
  | _ => none

def propertyOf? (name : String) : Option Property :=
  match name with
  | "any" => some .any
  | "ascii" => some .ascii
  | "assigned" => some .any
  | "alphabetic" | "alpha" => some .alphabetic
  | "whitespace" | "wspace" | "space" => some .whiteSpace
  | "uppercase" | "upper" => some .upper
  | "lowercase" | "lower" => some .lower
  | other => (categoryOf? other).orElse fun _ => scriptOf? other

inductive PropertyFault where
  | noProperty
  | noValue
deriving DecidableEq, Inhabited

inductive PropertyQuery where
  | letter (c : Char)
  | name (s : String)
  | valued (key value : String)
deriving Inhabited

def PropertyQuery.lookup : PropertyQuery → Except PropertyFault Property
  | .letter c => (propertyOf? (normalizeName (String.singleton c))).elim (.error .noProperty) .ok
  | .name s => (propertyOf? (normalizeName s)).elim (.error .noProperty) .ok
  | .valued key value =>
    let value := normalizeName value
    match normalizeName key with
    | "generalcategory" | "gc" => (categoryOf? value).elim (.error .noValue) .ok
    | "script" | "sc" | "scriptextensions" | "scx" => (scriptOf? value).elim (.error .noValue) .ok
    | _ => .error .noProperty

theorem otherCase_ascii (c : Char) (h : c.toNat < 128) :
    otherCase c = if 0x61 ≤ c.toNat ∧ c.toNat ≤ 0x7A then Char.ofNat (c.toNat - 32)
      else if 0x41 ≤ c.toNat ∧ c.toNat ≤ 0x5A then Char.ofNat (c.toNat + 32) else c := by
  unfold otherCase
  by_cases h1 : 0x61 ≤ c.toNat ∧ c.toNat ≤ 0x7A
  · rw [if_pos h1, if_pos h1]
  · by_cases h2 : 0x41 ≤ c.toNat ∧ c.toNat ≤ 0x5A
    · rw [if_neg h1, if_pos h2, if_neg h1, if_pos h2]
    · rw [if_neg h1, if_neg h2, if_neg h1, if_neg h2]
      repeat rw [if_neg (by omega)]

end TaskTree.Regex
