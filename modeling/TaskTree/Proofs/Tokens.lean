import TaskTree.Token
import Mathlib.Data.List.TakeWhile
import Mathlib.Data.List.TakeDrop
import Mathlib.Data.List.Basic
import Mathlib.Data.Nat.Init

set_option autoImplicit false

namespace TaskTree.Token

def opener : List Char := [sigil, '{']

def IsRefPath (q : String) : Prop :=
  (∃ c rest, q.toList = c :: rest ∧ (c.isAlpha = true ∨ c = '_')) ∧
    ∀ c ∈ q.toList, Text.isAlnum c = true ∨ c = '.' ∨ c = '_' ∨ c = '-' ∨ c = '$'

def IsReference (s : String) : Prop :=
  ∃ q, s = "•" ++ q ∧ IsRefPath q

def Unpadded (g : List Char) : Prop :=
  (∀ c ∈ g.head?, Text.isBlank c = false) ∧ ∀ c ∈ g.getLast?, Text.isBlank c = false

inductive Layout : List Char → List (List Char × List Char) → List Char → Prop
  | plain {cs : List Char} : ¬List.IsInfix opener cs → Layout cs [] cs
  | unclosed {t v : List Char} : ¬List.IsInfix opener t → '}' ∉ v →
      Layout (t ++ opener ++ v) [] (t ++ opener ++ v)
  | group {t g rest : List Char} {gs : List (List Char × List Char)} {tail : List Char} :
      ¬List.IsInfix opener t → '}' ∉ g → Layout rest gs tail →
      Layout (t ++ opener ++ g ++ '}' :: rest) ((t, g) :: gs) tail

def refill (f : List Char → List Char) (gs : List (List Char × List Char)) (tail : List Char) :
    List Char :=
  gs.flatMap (fun tg => tg.1 ++ opener ++ f tg.2 ++ ['}']) ++ tail

def trimmed (g : List Char) : List Char :=
  (Text.trimBlank (String.ofList g)).toList

def Segment.chars : Segment → List Char
  | .text t => t.toList
  | .path q => opener ++ q.toList ++ ['}']

def writeSegments (segs : List Segment) : String :=
  String.ofList (segs.flatMap Segment.chars)

theorem not_infix_opener_nil : ¬List.IsInfix opener [] := by
  simp [opener]

theorem infix_opener_cons {c : Char} {cs : List Char} :
    List.IsInfix opener (c :: cs) ↔ (c = sigil ∧ cs.head? = some '{') ∨ List.IsInfix opener cs := by
  rw [List.infix_cons_iff]
  cases cs with
  | nil => simp [opener]
  | cons d cs =>
    simp only [opener, List.cons_prefix_cons, List.head?_cons, Option.some.injEq]
    rw [@eq_comm _ sigil, @eq_comm _ '{']
    simp

theorem splitAtOpener_cons (c : Char) {l : List Char} (nonempty : l ≠ [])
    (closed : ¬(c = sigil ∧ l.head? = some '{')) :
    splitAtOpener (c :: l) = (splitAtOpener l).map fun (b, a) => (c :: b, a) := by
  obtain ⟨d, rest, rfl⟩ := List.exists_cons_of_ne_nil nonempty
  simp only [List.head?_cons, Option.some.injEq] at closed
  simp [splitAtOpener, closed]

theorem splitAtOpener_append {t : List Char} (clear : ¬List.IsInfix opener t) (x : List Char) :
    splitAtOpener (t ++ opener ++ x) = some (t, x) := by
  induction t with
  | nil => simp [splitAtOpener, opener]
  | cons c t ih =>
    rw [infix_opener_cons, not_or] at clear
    have next : ¬(c = sigil ∧ (t ++ opener ++ x).head? = some '{') := by
      cases t with
      | nil => simp [opener, sigil]
      | cons d t => simpa using clear.1
    rw [List.cons_append, List.cons_append, splitAtOpener_cons c (by simp [opener]) next,
      ih clear.2]
    rfl

theorem splitAtOpener_some {cs b a : List Char} (found : splitAtOpener cs = some (b, a)) :
    cs = b ++ opener ++ a ∧ ¬List.IsInfix opener b := by
  fun_induction splitAtOpener cs generalizing b a with
  | case1 => cases found
  | case2 => cases found
  | case3 c d rest opens =>
    cases found
    obtain ⟨rfl, rfl⟩ := opens
    exact ⟨rfl, not_infix_opener_nil⟩
  | case4 c d rest closed ih =>
    obtain ⟨⟨b', a'⟩, found', same⟩ := Option.map_eq_some_iff.mp found
    cases same
    obtain ⟨split, clear⟩ := ih found'
    refine ⟨by rw [split]; rfl, ?_⟩
    rw [infix_opener_cons, not_or]
    refine ⟨fun ⟨first, next⟩ => closed ⟨first, ?_⟩, clear⟩
    -- the part before the opener starts with `{`, and so does the text after `c`
    cases b' with
    | nil => cases next
    | cons e b'' =>
      simp only [List.head?_cons, Option.some.injEq] at next
      simp only [List.cons_append, List.cons.injEq] at split
      rw [split.1, next]

theorem splitAtOpener_none {cs : List Char} (missing : splitAtOpener cs = none) :
    ¬List.IsInfix opener cs := by
  fun_induction splitAtOpener cs with
  | case1 => exact not_infix_opener_nil
  | case2 x =>
    intro inside
    have := inside.length_le
    simp [opener] at this
  | case3 => cases missing
  | case4 c d rest closed ih =>
    rw [Option.map_eq_none_iff] at missing
    rw [infix_opener_cons, not_or]
    exact ⟨by simpa using closed, ih missing⟩

theorem splitAtOpener_of_clear {cs : List Char} (clear : ¬List.IsInfix opener cs) :
    splitAtOpener cs = none := by
  cases found : splitAtOpener cs with
  | none => rfl
  | some split =>
    obtain ⟨rfl, -⟩ := splitAtOpener_some found
    exact absurd (List.infix_append _ _ _) clear

theorem hasOpener_iff (cs : List Char) : hasOpener cs = true ↔ List.IsInfix opener cs := by
  unfold hasOpener
  cases found : splitAtOpener cs with
  | none => simpa using splitAtOpener_none found
  | some split =>
    obtain ⟨rfl, -⟩ := splitAtOpener_some found
    exact iff_of_true rfl (List.infix_append _ _ _)

theorem span_of_unclosed {v : List Char} (unclosed : '}' ∉ v) :
    v.span (· ≠ '}') = (v, []) := by
  have kept : ∀ c ∈ v, decide (c ≠ '}') = true := fun c member => by
    simpa using fun same : c = '}' => unclosed (same ▸ member)
  rw [List.span_eq_takeWhile_dropWhile, List.takeWhile_eq_self_iff.mpr kept,
    List.dropWhile_eq_nil_iff.mpr kept]

theorem span_of_close {g rest : List Char} (unclosed : '}' ∉ g) :
    (g ++ '}' :: rest).span (· ≠ '}') = (g, '}' :: rest) := by
  have kept : ∀ c ∈ g, decide (c ≠ '}') = true := fun c member => by
    simpa using fun same : c = '}' => unclosed (same ▸ member)
  rw [List.span_eq_takeWhile_dropWhile, List.takeWhile_append_of_pos kept,
    List.dropWhile_append_of_pos kept]
  simp

-- A text holding `}` splits at the first one.
theorem exists_first_close {v : List Char} (present : '}' ∈ v) :
    ∃ g rest, '}' ∉ g ∧ v = g ++ '}' :: rest := by
  induction v with
  | nil => cases present
  | cons c v ih =>
    by_cases close : c = '}'
    · exact ⟨[], v, List.not_mem_nil, by rw [close]; rfl⟩
    · have later : '}' ∈ v := (List.mem_cons.mp present).resolve_left (Ne.symm close)
      obtain ⟨g, rest, unclosed, rfl⟩ := ih later
      refine ⟨c :: g, rest, ?_, rfl⟩
      simpa [Ne.symm close] using unclosed

namespace Layout

-- Every text has a layout, found by reading it from the left.
theorem exists_layout (cs : List Char) : ∃ gs tail, Layout cs gs tail := by
  -- by strong induction on the length of the text: a closed group leaves a shorter rest
  induction size : cs.length using Nat.strong_induction_on generalizing cs with
  | _ k ih =>
    cases found : splitAtOpener cs with
    | none => exact ⟨[], cs, .plain (splitAtOpener_none found)⟩
    | some split =>
      obtain ⟨t, after⟩ := split
      obtain ⟨rfl, clear⟩ := splitAtOpener_some found
      by_cases closes : '}' ∈ after
      · obtain ⟨g, rest, unclosed, rfl⟩ := exists_first_close closes
        have shorter : rest.length < k := by
          rw [← size]
          simp only [List.length_append, List.length_cons]
          omega
        obtain ⟨gs, tail, layout⟩ := ih rest.length shorter rest rfl
        refine ⟨(t, g) :: gs, tail, ?_⟩
        rw [← List.append_assoc]
        exact .group clear unclosed layout
      · exact ⟨[], _, .unclosed clear closes⟩

theorem opens_group (t g rest : List Char) :
    List.IsInfix opener (t ++ opener ++ g ++ '}' :: rest) :=
  ⟨t, g ++ '}' :: rest, by simp⟩

-- Two readings agree on the first opener of a text, and on the first brace after it.
theorem opener_split_eq {t t' x x' : List Char} (clear : ¬List.IsInfix opener t)
    (clear' : ¬List.IsInfix opener t') (same : t ++ opener ++ x = t' ++ opener ++ x') :
    t = t' ∧ x = x' := by
  have found := splitAtOpener_append clear x
  rw [same, splitAtOpener_append clear' x'] at found
  cases found
  exact ⟨rfl, rfl⟩

theorem close_split_eq {g g' rest rest' : List Char} (unclosed : '}' ∉ g) (unclosed' : '}' ∉ g')
    (same : g ++ '}' :: rest = g' ++ '}' :: rest') : g = g' ∧ rest = rest' := by
  have found := @span_of_close g rest unclosed
  rw [same, span_of_close unclosed'] at found
  cases found
  exact ⟨rfl, rfl⟩

theorem unique {cs gs tail} (layout : Layout cs gs tail) :
    ∀ {cs' gs' tail'}, Layout cs' gs' tail' → cs = cs' → gs = gs' ∧ tail = tail' := by
  induction layout with
  | plain clear =>
    intro cs' gs' tail' other same
    cases other with
    | plain _ => exact ⟨rfl, same⟩
    | unclosed _ _ => exact absurd (same ▸ List.infix_append _ _ _) clear
    | group _ _ _ => exact absurd (same ▸ opens_group _ _ _) clear
  | unclosed clear unclosed =>
    intro cs' gs' tail' other same
    cases other with
    | plain clear' => exact absurd (same ▸ List.infix_append _ _ _) clear'
    | unclosed _ _ => exact ⟨rfl, same⟩
    | group clear' _ _ =>
      rw [List.append_assoc _ _ ('}' :: _)] at same
      obtain ⟨-, rfl⟩ := opener_split_eq clear clear' same
      exact absurd (List.mem_append_right _ List.mem_cons_self) unclosed
  | group clear unclosed _ ih =>
    intro cs' gs' tail' other same
    cases other with
    | plain clear' => exact absurd (same ▸ opens_group _ _ _) clear'
    | unclosed clear' unclosed' =>
      rw [List.append_assoc _ _ ('}' :: _)] at same
      obtain ⟨-, rfl⟩ := opener_split_eq clear clear' same
      exact absurd (List.mem_append_right _ List.mem_cons_self) unclosed'
    | group clear' unclosed' other =>
      rw [List.append_assoc _ _ ('}' :: _), List.append_assoc _ _ ('}' :: _)] at same
      obtain ⟨rfl, after⟩ := opener_split_eq clear clear' same
      obtain ⟨rfl, rfl⟩ := close_split_eq unclosed unclosed' after
      obtain ⟨rfl, rfl⟩ := ih other rfl
      exact ⟨rfl, rfl⟩

theorem groups_length_le {cs gs tail} (layout : Layout cs gs tail) : gs.length ≤ cs.length := by
  induction layout with
  | plain _ => exact Nat.zero_le _
  | unclosed _ _ => exact Nat.zero_le _
  | group _ _ _ ih =>
    simp only [List.length_append, List.length_cons]
    omega

theorem refill_id {cs gs tail} (layout : Layout cs gs tail) : refill id gs tail = cs := by
  induction layout with
  | plain _ => rfl
  | unclosed _ _ => rfl
  | group _ _ _ ih =>
    rw [← ih]
    simp [refill]

end Layout

def textSegment (t : List Char) : List Segment :=
  if t = [] then [] else [.text (String.ofList t)]

def layoutSegments (gs : List (List Char × List Char)) (tail : List Char) : List Segment :=
  gs.flatMap (fun tg => textSegment tg.1 ++ [.path (Text.trimBlank (String.ofList tg.2))]) ++
    textSegment tail

theorem segments_of_layout {cs gs tail} (layout : Layout cs gs tail) :
    ∀ k, gs.length ≤ k → segments k cs = layoutSegments gs tail := by
  induction layout with
  | plain clear =>
    intro k _
    cases k with
    | zero => simp [segments, layoutSegments, textSegment]
    | succ k => simp [segments, splitAtOpener_of_clear clear, layoutSegments, textSegment]
  | unclosed clear unclosed =>
    intro k _
    cases k with
    | zero => simp [segments, layoutSegments, textSegment]
    | succ k =>
      simp only [segments, splitAtOpener_append clear, span_of_unclosed unclosed]
      simp [layoutSegments, textSegment, opener]
  | @group t g rest gs tail clear unclosed _ ih =>
    intro k enough
    obtain ⟨k, rfl⟩ : ∃ j, k = j + 1 := ⟨k - 1, by simp at enough; omega⟩
    have found : splitAtOpener (t ++ opener ++ g ++ '}' :: rest) = some (t, g ++ '}' :: rest) := by
      rw [List.append_assoc _ g]
      exact splitAtOpener_append clear _
    simp only [segments, found, span_of_close unclosed, ih k (by simpa using enough)]
    cases t <;> simp [layoutSegments, textSegment]

theorem textSegment_chars (t : List Char) : (textSegment t).flatMap Segment.chars = t := by
  cases t <;> simp [textSegment, Segment.chars]

theorem chars_layoutSegments (gs : List (List Char × List Char)) (tail : List Char) :
    (layoutSegments gs tail).flatMap Segment.chars = refill trimmed gs tail := by
  induction gs with
  | nil => simp [layoutSegments, refill, textSegment_chars]
  | cons tg gs ih =>
    simp only [layoutSegments, refill, List.flatMap_cons, List.flatMap_append,
      List.append_assoc] at ih ⊢
    rw [ih, textSegment_chars]
    simp [Segment.chars, trimmed]

-- A content without blanks at its ends is its own trim.
theorem dropWhile_blank_of_head {l : List Char} (kept : ∀ c ∈ l.head?, Text.isBlank c = false) :
    l.dropWhile Text.isBlank = l := by
  cases l with
  | nil => rfl
  | cons c l =>
    simp only [List.head?_cons, Option.mem_def, Option.some.injEq, forall_eq'] at kept
    simp [kept]

theorem trimmed_of_unpadded {g : List Char} (unpadded : Unpadded g) : trimmed g = g := by
  have last : ∀ c ∈ g.reverse.head?, Text.isBlank c = false := by
    simpa [List.head?_reverse] using unpadded.2
  simp only [trimmed, Text.trimBlank, String.toList_ofList, dropWhile_blank_of_head unpadded.1,
    dropWhile_blank_of_head last, List.reverse_reverse]

theorem refill_congr {f f' : List Char → List Char} {gs : List (List Char × List Char)}
    (same : ∀ tg ∈ gs, f tg.2 = f' tg.2) (tail : List Char) :
    refill f gs tail = refill f' gs tail := by
  simp only [refill]
  congr 1
  exact List.flatMap_congr fun tg member => by rw [same tg member]

theorem toList_sigil_append (q : String) : ("•" ++ q).toList = sigil :: q.toList := by
  simp [sigil]

theorem isPath_iff (q : String) : isPath q = true ↔ IsRefPath q := by
  unfold isPath IsRefPath
  cases q.toList with
  | nil => simp
  | cons c rest => simp [isPathChar, List.all_eq_true, or_assoc]

theorem parse_of_reference {q : String} (named : IsRefPath q) :
    parse ("•" ++ q) = .reference q := by
  unfold parse
  rw [toList_sigil_append]
  simp [(isPath_iff q).mpr named]

theorem parse_of_not_reference {s : String} (plain : ¬IsReference s) :
    parse s = if hasOpener s.toList then .template (segments s.length s.toList) else .literal s := by
  unfold parse
  cases spelled : s.toList with
  | nil => rfl
  | cons c rest =>
    have unnamed : ¬(c = sigil ∧ isPath (String.ofList rest) = true) := by
      rintro ⟨rfl, named⟩
      refine plain ⟨String.ofList rest, String.toList_injective ?_, (isPath_iff _).mp named⟩
      rw [spelled, toList_sigil_append, String.toList_ofList]
    simp only [unnamed, if_false]

theorem parse_reference_iff (s q : String) :
    parse s = .reference q ↔ s = "•" ++ q ∧ IsRefPath q := by
  constructor
  · intro parsed
    by_cases named : IsReference s
    · obtain ⟨q', rfl, named'⟩ := named
      rw [parse_of_reference named'] at parsed
      cases parsed
      exact ⟨rfl, named'⟩
    · rw [parse_of_not_reference named] at parsed
      split at parsed <;> cases parsed
  · rintro ⟨rfl, named⟩
    exact parse_of_reference named

-- A text that reads as anything but a reference is no reference.
theorem not_reference_of_parse {s : String} {t : Token} (parsed : parse s = t)
    (other : ∀ q, t ≠ .reference q) : ¬IsReference s := by
  rintro ⟨q, rfl, named⟩
  exact other q (parsed ▸ parse_of_reference named)

theorem parse_literal_iff (s : String) :
    parse s = .literal s ↔ ¬IsReference s ∧ ¬List.IsInfix opener s.toList := by
  rw [← hasOpener_iff, Bool.not_eq_true]
  constructor
  · intro parsed
    have named := not_reference_of_parse parsed fun q => by simp
    rw [parse_of_not_reference named] at parsed
    refine ⟨named, ?_⟩
    cases opens : hasOpener s.toList
    · rfl
    · rw [opens, if_pos rfl] at parsed
      cases parsed
  · rintro ⟨named, closed⟩
    rw [parse_of_not_reference named, closed]
    rfl

theorem parse_template_iff (s : String) :
    (∃ segs, parse s = .template segs) ↔ ¬IsReference s ∧ List.IsInfix opener s.toList := by
  rw [← hasOpener_iff]
  constructor
  · rintro ⟨segs, parsed⟩
    have named := not_reference_of_parse parsed fun q => by simp
    rw [parse_of_not_reference named] at parsed
    refine ⟨named, ?_⟩
    cases opens : hasOpener s.toList
    · rw [opens, if_neg Bool.false_ne_true] at parsed
      cases parsed
    · rfl
  · rintro ⟨named, opens⟩
    exact ⟨_, by rw [parse_of_not_reference named, if_pos opens]⟩

theorem segments_of_parse {s : String} {segs : List Segment} (parsed : parse s = .template segs) :
    segs = segments s.length s.toList := by
  obtain ⟨named, opens⟩ := (parse_template_iff s).mp ⟨segs, parsed⟩
  rw [parse_of_not_reference named, if_pos ((hasOpener_iff _).mpr opens)] at parsed
  cases parsed
  rfl

theorem writeSegments_of_parse {s : String} {segs : List Segment} {gs tail}
    (parsed : parse s = .template segs) (layout : Layout s.toList gs tail) :
    writeSegments segs = String.ofList (refill trimmed gs tail) := by
  have enough : gs.length ≤ s.length := String.length_toList ▸ layout.groups_length_le
  rw [segments_of_parse parsed, segments_of_layout layout _ enough, writeSegments,
    chars_layoutSegments]

theorem writeSegments_of_unpadded {s : String} {segs : List Segment} {gs tail}
    (parsed : parse s = .template segs) (layout : Layout s.toList gs tail)
    (unpadded : ∀ tg ∈ gs, Unpadded tg.2) : writeSegments segs = s := by
  rw [writeSegments_of_parse parsed layout,
    @refill_congr trimmed id gs (fun tg member => trimmed_of_unpadded (unpadded tg member)) tail,
    layout.refill_id, String.ofList_toList]

theorem writeSegments_cons (seg : Segment) (rest : List Segment) :
    writeSegments (seg :: rest) = String.ofList seg.chars ++ writeSegments rest := by
  rw [writeSegments, writeSegments, List.flatMap_cons, String.ofList_append]

theorem ofList_path_chars (p : String) :
    String.ofList (Segment.path p).chars = "•\x7b" ++ p ++ "\x7d" := by
  have opens : String.ofList opener = "•\x7b" := rfl
  have closes : String.ofList ['}'] = "\x7d" := rfl
  rw [Segment.chars, String.ofList_append, String.ofList_append, opens, closes,
    String.ofList_toList]

-- A fold that adds text as itself and a path as its own group, after what came before, writes
-- the segments back.
theorem foldl_writes (f : String → Segment → String) (text : ∀ acc t, f acc (.text t) = acc ++ t)
    (path : ∀ acc p, f acc (.path p) = acc ++ ("•\x7b" ++ p ++ "\x7d")) :
    ∀ (segs : List Segment) (acc : String), segs.foldl f acc = acc ++ writeSegments segs
  | [], acc => by simp [writeSegments]
  | .text t :: rest, acc => by
    rw [List.foldl_cons, foldl_writes f text path rest, writeSegments_cons, text, Segment.chars,
      String.ofList_toList, String.append_assoc]
  | .path p :: rest, acc => by
    rw [List.foldl_cons, foldl_writes f text path rest, writeSegments_cons, path,
      ofList_path_chars, String.append_assoc]

theorem substitute_writes_back {s : String} (named : ¬IsReference s)
    (unpadded : ∀ gs tail, Layout s.toList gs tail → ∀ tg ∈ gs, Unpadded tg.2) :
    substitute s (fun q => some (.str ("•\x7b" ++ q ++ "\x7d"))) = .str s := by
  obtain ⟨gs, tail, layout⟩ := Layout.exists_layout s.toList
  cases opens : hasOpener s.toList
  · have parsed : parse s = .literal s := by
      rw [parse_of_not_reference named, opens]
      rfl
    rw [substitute, parsed]
  · have parsed : parse s = .template (segments s.length s.toList) := by
      rw [parse_of_not_reference named, opens]
      rfl
    rw [substitute, parsed]
    refine congrArg Json.str ((foldl_writes _ (fun _ _ => rfl) (fun _ _ => rfl) _ "").trans ?_)
    rw [String.empty_append, writeSegments_of_unpadded parsed layout (unpadded gs tail layout)]

/-- How a text reads as a token: a reference exactly when it is the sigil and a path name, a
literal (of itself) exactly when it is no reference and holds no opener, a template otherwise.
Every text falls into closed groups in one way only; a template's segments written back give the
text with each closed group's content trimmed, and the text itself when no content is padded
with blanks. So a text that is no reference, with no padded group, comes back from substituting
each path by itself written as a group. -/
theorem parse_writes_back (s : String) :
    (∀ q, parse s = .reference q ↔ s = "•" ++ q ∧ IsRefPath q) ∧
    (parse s = .literal s ↔ ¬IsReference s ∧ ¬List.IsInfix opener s.toList) ∧
    ((∃ segs, parse s = .template segs) ↔ ¬IsReference s ∧ List.IsInfix opener s.toList) ∧
    ((∃ gs tail, Layout s.toList gs tail) ∧
      ∀ gs tail gs' tail', Layout s.toList gs tail → Layout s.toList gs' tail' →
        gs = gs' ∧ tail = tail') ∧
    (∀ segs gs tail, parse s = .template segs → Layout s.toList gs tail →
      writeSegments segs = String.ofList (refill trimmed gs tail) ∧
        ((∀ tg ∈ gs, Unpadded tg.2) → writeSegments segs = s)) ∧
    (¬IsReference s → (∀ gs tail, Layout s.toList gs tail → ∀ tg ∈ gs, Unpadded tg.2) →
      substitute s (fun q => some (.str ("•\x7b" ++ q ++ "\x7d"))) = .str s) :=
  ⟨parse_reference_iff s, parse_literal_iff s, parse_template_iff s,
    ⟨Layout.exists_layout s.toList, fun _ _ _ _ first second => first.unique second rfl⟩,
    fun _ _ _ parsed layout =>
      ⟨writeSegments_of_parse parsed layout, writeSegments_of_unpadded parsed layout⟩,
    substitute_writes_back⟩

example : parse "hi •\x7b user.name \x7d!" =
    .template [.text "hi ", .path "user.name", .text "!"] := by decide

example :
    writeSegments [.text "hi ", .path "user.name", .text "!"] = "hi •\x7buser.name\x7d!" := by
  decide

end TaskTree.Token
