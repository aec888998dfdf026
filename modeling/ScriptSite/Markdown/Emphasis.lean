import ScriptSite.Markdown.Rule

/-!
# Emphasis

Stars and underscores mark emphasis. Five patterns are tried in turn at a mark: strong around
emphasis that ends first, emphasis around strong that ends first, strong text with emphasis at its
end, strong text, and emphasised text. Underscores have to stand at the edge of a word in the last
three. Inside a match only the later patterns are tried, so that nesting comes to an end.
-/

namespace ScriptSite.Markdown

/-- The patterns of emphasis, in the order in which they are tried. -/
inductive EmphasisPattern
  /-- Three marks, emphasis to the next mark, strong to the next two. -/
  | strongAroundEmphasis
  /-- Three marks, strong to the next two marks, emphasis to the next one. -/
  | emphasisAroundStrong
  /-- Two marks, text, one mark, text, and three marks that end both. -/
  | strongEndingInEmphasis
  /-- Text between two marks on each side. -/
  | strong
  /-- Text between single marks. -/
  | emphasis
  deriving DecidableEq, Repr

namespace EmphasisPattern

def all : List EmphasisPattern :=
  [strongAroundEmphasis, emphasisAroundStrong, strongEndingInEmphasis, strong, emphasis]

/-- The patterns that are tried inside a match of this one. -/
def later : EmphasisPattern → List EmphasisPattern
  | strongAroundEmphasis => [emphasisAroundStrong, strongEndingInEmphasis, strong, emphasis]
  | emphasisAroundStrong => [strongEndingInEmphasis, strong, emphasis]
  | strongEndingInEmphasis => [strong, emphasis]
  | strong => [emphasis]
  | emphasis => []

end EmphasisPattern

/-- A match of a pattern: the marked text, the second text of a double pattern, and the run behind
the match. -/
structure EmphasisMatch where
  first : Run
  second : Run
  rest : Run

def inWord (glyph : Option Glyph) : Bool :=
  glyph.any (·.satisfies isWordChar)

/-- What follows a row of `width` marks at the head of a run. -/
def afterRow? (mark : Char) (width : Nat) (run : Run) : Option Run :=
  Run.dropPrefix? (List.replicate width mark) run

def anyGlyph : Glyph → Bool := fun _ => true

/-- The match of a pattern of stars at the head of a run. -/
def matchStars? (pattern : EmphasisPattern) (run : Run) : Option EmphasisMatch :=
  let row := afterRow? '*'
  let notStar (glyph : Glyph) : Bool := !glyph.is '*'
  match pattern with
  | .strongAroundEmphasis => do
    let inner ← row 3 run
    let close? (_ : Option Glyph) (rest : Run) : Option (Run × Run) :=
      (row 1 rest).bind fun rest => shortest? anyGlyph (fun _ => row 2) 0 [] rest
    let (first, second, rest) ← shortest? anyGlyph close? 1 [] inner
    some ⟨first, second, rest⟩
  | .emphasisAroundStrong => do
    let inner ← row 3 run
    let close? (_ : Option Glyph) (rest : Run) : Option (Run × Run) :=
      (row 2 rest).bind fun rest => shortest? anyGlyph (fun _ => row 1) 0 [] rest
    let (first, second, rest) ← shortest? anyGlyph close? 1 [] inner
    some ⟨first, second, rest⟩
  | .strongEndingInEmphasis => do
    let inner ← row 2 run
    if inner.startsWith ['*'] then none
    else
      let close? (_ : Option Glyph) (rest : Run) : Option (Run × Run) :=
        (row 1 rest).bind fun rest =>
          if rest.startsWith ['*'] then none
          else shortest? anyGlyph (fun _ => row 3) 1 [] rest
      let (first, second, rest) ← shortest? notStar close? 1 [] inner
      some ⟨first, second, rest⟩
  | .strong => do
    let inner ← row 2 run
    let (first, rest) ← shortest? anyGlyph (fun _ => row 2) 1 [] inner
    some ⟨first, [], rest⟩
  | .emphasis => do
    let inner ← row 1 run
    let (first, rest) ← shortest? notStar (fun _ => row 1) 1 [] inner
    some ⟨first, [], rest⟩

/-- The match of a pattern of underscores at the head of a run, behind the glyph `before`. -/
def matchUnderscores? (pattern : EmphasisPattern) (before : Option Glyph) (run : Run) :
    Option EmphasisMatch :=
  let row := afterRow? '_'
  let atEdge (rest : Run) : Option Run := if inWord rest.head? then none else some rest
  match pattern with
  | .strongAroundEmphasis => do
    let inner ← row 3 run
    let close? (_ : Option Glyph) (rest : Run) : Option (Run × Run) :=
      (row 1 rest).bind fun rest => shortest? anyGlyph (fun _ => row 2) 0 [] rest
    let (first, second, rest) ← shortest? anyGlyph close? 1 [] inner
    some ⟨first, second, rest⟩
  | .emphasisAroundStrong => do
    let inner ← row 3 run
    let close? (_ : Option Glyph) (rest : Run) : Option (Run × Run) :=
      (row 2 rest).bind fun rest => shortest? anyGlyph (fun _ => row 1) 0 [] rest
    let (first, second, rest) ← shortest? anyGlyph close? 1 [] inner
    some ⟨first, second, rest⟩
  | .strongEndingInEmphasis => do
    let inner ← row 2 run
    if inWord before || inner.startsWith ['_'] then none
    else
      let close? (last : Option Glyph) (rest : Run) : Option (Run × Run) :=
        if inWord last then none
        else
          (row 1 rest).bind fun rest =>
            if rest.startsWith ['_'] then none
            else shortest? anyGlyph (fun _ rest => (row 3 rest).bind atEdge) 1 [] rest
      let (first, second, rest) ← shortest? anyGlyph close? 1 [] inner
      some ⟨first, second, rest⟩
  | .strong => do
    let inner ← row 2 run
    if inWord before || inner.startsWith ['_'] then none
    else
      let close? (last : Option Glyph) (rest : Run) : Option Run :=
        if preceded '_' last then none else (row 2 rest).bind atEdge
      let (first, rest) ← shortest? anyGlyph close? 1 [] inner
      some ⟨first, [], rest⟩
  | .emphasis => do
    let inner ← row 1 run
    if inWord before || inner.startsWith ['_'] then none
    else
      let close? (last : Option Glyph) (rest : Run) : Option Run :=
        if preceded '_' last then none else (row 1 rest).bind atEdge
      let (first, rest) ← shortest? anyGlyph close? 1 [] inner
      some ⟨first, [], rest⟩

/-- The match of a pattern at the head of a run, behind the glyph `before`. -/
def matchEmphasis? (mark : Char) (pattern : EmphasisPattern) (before : Option Glyph) (run : Run) :
    Option EmphasisMatch :=
  if mark = '*' then matchStars? pattern run else matchUnderscores? pattern before run

/-- The first of the given patterns that matches at the head of a run. -/
def firstMatch (mark : Char) (patterns : List EmphasisPattern) (before : Option Glyph) (run : Run) :
    Option (EmphasisPattern × EmphasisMatch) :=
  patterns.findSome? fun pattern =>
    (matchEmphasis? mark pattern before run).map fun found => (pattern, found)

/-- A run and elements as the contents of an element. With `inside` given, it is the first child,
and the run goes behind it. -/
def fill (tag : Tag) (inside : Option Element) (contents : Run × List Element) : Element :=
  match inside with
  | none => .mk tag [] contents.1 contents.2 []
  | some child => .mk tag [] [] (child.withTail contents.1 :: contents.2) []

mutual

/-- The element of a match of `pattern`. `steps` bounds the nesting and the length. -/
def emphasisElement (mark : Char) (pattern : EmphasisPattern) (found : EmphasisMatch) :
    (steps : Nat) → Element
  | 0 => Element.empty .emphasis
  | steps + 1 =>
    let inner (run : Run) : Run × List Element :=
      emphasisWithin mark pattern.later none [] run steps
    match pattern with
    | .strongAroundEmphasis =>
      fill .strong (some (fill .emphasis none (inner found.first))) (inner found.second)
    | .emphasisAroundStrong =>
      fill .emphasis (some (fill .strong none (inner found.first))) (inner found.second)
    | .strongEndingInEmphasis =>
      let (lead, children) := inner found.first
      .mk .strong [] lead (children ++ [fill .emphasis none (inner found.second)]) []
    | .strong => fill .strong none (inner found.first)
    | .emphasis => fill .emphasis none (inner found.first)

/-- A run cut at the matches of the given patterns: the run before the first match, and the elements
of the matches, each with the run behind it. `passed` holds the glyphs since the last match in
reverse order, and `before` is the glyph before the run. -/
def emphasisWithin (mark : Char) (patterns : List EmphasisPattern) (before : Option Glyph)
    (passed : Run) (run : Run) : (steps : Nat) → Run × List Element
  | 0 => (passed.reverse ++ run, [])
  | steps + 1 =>
    match run with
    | [] => (passed.reverse, [])
    | glyph :: rest =>
      let here := if glyph.is mark then firstMatch mark patterns before run else none
      match here with
      | none => emphasisWithin mark patterns (some glyph) (glyph :: passed) rest steps
      | some (pattern, found) =>
        let element := emphasisElement mark pattern found steps
        let (behind, elements) :=
          emphasisChain mark patterns pattern.later (some (.char mark)) found.rest steps
        (passed.reverse, element.withTail behind :: elements)

/-- The run behind a match: the patterns `next` that have not been tried yet are tried at its head
one after the other, before the search goes on. -/
def emphasisChain (mark : Char) (patterns next : List EmphasisPattern) (before : Option Glyph)
    (run : Run) : (steps : Nat) → Run × List Element
  | 0 => (run, [])
  | steps + 1 =>
    match firstMatch mark next before run with
    | none => emphasisWithin mark patterns before [] run steps
    | some (pattern, found) =>
      let element := emphasisElement mark pattern found steps
      let (behind, elements) :=
        emphasisChain mark patterns pattern.later (some (.char mark)) found.rest steps
      ([], element.withTail behind :: elements)

end

def emphasisRule (mark : Char) : Rule := fun before run =>
  if !run.startsWith [mark] then .none
  else
    match firstMatch mark EmphasisPattern.all before run with
    | none => .none
    | some (pattern, found) =>
      .element (emphasisElement mark pattern found (4 * (run.length + 4)))
        (run.length - found.rest.length)

end ScriptSite.Markdown
