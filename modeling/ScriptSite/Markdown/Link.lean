import ScriptSite.Markdown.Rule

/-!
# Links and images

A link is a text in brackets, followed by an address in parentheses or by the name of a definition
in brackets; the name may be left out. An image is a link with an exclamation mark before it. The
text may hold balanced brackets, and the address balanced parentheses. A title in quotes may follow
the address; as a quote can also be part of an address, the end of the link is looked for both with
and without a title.
-/

namespace ScriptSite.Markdown

/-- The text up to the bracket that closes the one before the run, and the run behind it. `depth`
brackets are open inside. -/
def bracketed? : (depth : Nat) → Run → Option (Run × Run)
  | _, [] => none
  | depth, glyph :: rest =>
    if glyph.is ']' then
      match depth with
      | 0 => some ([], rest)
      | depth + 1 => (bracketed? depth rest).map fun (text, after) => (glyph :: text, after)
    else if glyph.is '[' then
      (bracketed? (depth + 1) rest).map fun (text, after) => (glyph :: text, after)
    else (bracketed? depth rest).map fun (text, after) => (glyph :: text, after)

/-- A title in quotes at the head of a run, and the run behind it. -/
def quotedTitle? (run : Run) : Option (Run × Run) :=
  let within (quote : Char) (inner : Run) : Option (Run × Run) :=
    let title := inner.takeWhile fun glyph => !glyph.is quote
    (Run.dropPrefix? [quote] (inner.drop title.length)).map fun rest => (title, rest)
  match run with
  | .char '\'' :: inner => within '\'' inner
  | .char '"' :: inner => within '"' inner
  | _ => none

/-- An address in angle brackets with an optional title, up to the closing parenthesis: the address,
the title and the run behind the parenthesis. -/
def angledTarget? (run : Run) : Option (Run × Option Run × Run) := do
  let inner ← Run.dropPrefix? ['<'] run
  let address := inner.takeWhile fun glyph => !(glyph.is '<' || glyph.is '>')
  let rest := Run.trimLeft (← Run.dropPrefix? ['>'] (inner.drop address.length))
  match quotedTitle? rest with
  | some (title, rest) =>
    let rest ← Run.dropPrefix? [')'] (Run.trimLeft rest)
    some (address, some title, rest)
  | none =>
    let rest ← Run.dropPrefix? [')'] rest
    some (address, none, rest)

/-- A quote that may open a title: the quote, the place behind it and the place behind the latest
quote that may close the title. -/
structure OpenQuote where
  quote : Char
  start : Nat
  stop : Option Nat := none

/-- Whether a quote has been closed and the last glyph that is no space closed it. -/
def OpenQuote.closedBy (last : Option Char) (openQuote : Option OpenQuote) : Bool :=
  openQuote.any fun found => found.stop.isSome && last = some found.quote

/-- How far the search for the end of a link has come. -/
structure TargetScan where
  /-- The number of open parentheses. -/
  depth : Nat := 1
  /-- The number of parentheses that were open when the first quote was met and still are, if there
  is no title after all. -/
  fallbackDepth : Nat := 1
  /-- The place behind the parenthesis that ends the link if there is no title. -/
  fallbackEnd : Option Nat := none
  /-- The first quote met. -/
  first : Option OpenQuote := none
  /-- The first quote of the other kind met behind it. -/
  second : Option OpenQuote := none
  /-- The last character that is no space. -/
  last : Option Char := none

namespace TargetScan

/-- Takes in the glyph at `index`. -/
def step (index : Nat) (glyph : Glyph) (scan : TargetScan) : TargetScan :=
  match glyph with
  | .char '(' =>
    if scan.first.isNone then { scan with depth := scan.depth + 1 }
    else { scan with fallbackDepth := scan.fallbackDepth - 1 }
  | .char ')' =>
    if OpenQuote.closedBy scan.last scan.first || OpenQuote.closedBy scan.last scan.second then
      { scan with depth := 0 }
    else if scan.first.isNone then { scan with depth := scan.depth - 1 }
    else if scan.fallbackDepth = 0 then scan
    else
      { scan with
        fallbackDepth := scan.fallbackDepth - 1
        fallbackEnd := if scan.fallbackDepth = 1 then some (index + 1) else scan.fallbackEnd }
  | .char c =>
    if c = '"' ∨ c = '\'' then
      match scan.first with
      | none =>
        { scan with
          fallbackDepth := scan.depth
          depth := 1
          first := some { quote := c, start := index + 1 } }
      | some first =>
        if c = first.quote then
          { scan with first := some { first with stop := some (index + 1) } }
        else
          match scan.second with
          | none => { scan with second := some { quote := c, start := index + 1 } }
          | some second =>
            { scan with second := some { second with stop := some (index + 1) } }
    else scan
  | _ => scan

/-- Notes the glyph just taken in, unless it is a space. -/
def note (glyph : Glyph) (scan : TargetScan) : TargetScan :=
  match glyph with
  | .char ' ' => scan
  | .char c => { scan with last := some c }
  | _ => { scan with last := none }

/-- The scan at the parenthesis that ends the link, or at the end of the run, and the number of
glyphs passed. -/
def run (index : Nat) (scan : TargetScan) : Run → TargetScan × Nat
  | [] => (scan, index)
  | glyph :: rest =>
    let scan := scan.step index glyph
    if scan.depth = 0 then (scan, index + 1) else run (index + 1) (scan.note glyph) rest

end TargetScan

/-- The part of a run between two places. -/
def slice (start stop : Nat) (run : Run) : Run :=
  (run.take stop).drop start

/-- An address with an optional title, up to the closing parenthesis. -/
def plainTarget? (run : Run) : Option (Run × Option Run × Run) :=
  let (scan, stop) := TargetScan.run 0 {} run
  if scan.depth = 0 then
    let titled (found : OpenQuote) : Run × Option Run × Run :=
      (run.take (found.start - 1), some (slice found.start (found.stop.getD 0 - 1) run),
        run.drop stop)
    if OpenQuote.closedBy scan.last scan.first then scan.first.map titled
    else if OpenQuote.closedBy scan.last scan.second then scan.second.map titled
    else some (run.take (stop - 1), none, run.drop stop)
  else if scan.fallbackDepth = 0 then
    scan.fallbackEnd.map fun stop => (run.take (stop - 1), none, run.drop stop)
  else none

/-- A text without the quotes around it, if there are any. -/
def unquote (run : Run) : Run :=
  let quotedBy (quote : Char) : Bool :=
    run.startsWith [quote] && run.getLast?.any (·.is quote)
  if quotedBy '"' || quotedBy '\'' then (run.drop 1).dropLast else run

/-- The target in parentheses at the head of a run, and the run behind it. -/
def target? (run : Run) : Option (Target × Run) := do
  let inner := Run.trimLeft (← Run.dropPrefix? ['('] run)
  let (address, title, rest) ← (angledTarget? inner).or (plainTarget? inner)
  let cleanTitle (title : Run) : Run :=
    (unquote (plainRun (Run.trim title))).map fun glyph =>
      if glyph.isBlank then .char ' ' else glyph
  some (⟨Run.trim (plainRun address), title.map cleanTitle⟩, rest)

/-- A name in brackets at the head of a run, with at most one blank before it, and the run behind
it. -/
def nameInBrackets? (run : Run) : Option (Run × Run) := do
  let run := if run.head?.any (·.isBlank) then run.drop 1 else run
  let inner ← Run.dropPrefix? ['['] run
  let name := inner.takeWhile fun glyph => !glyph.is ']'
  let rest ← Run.dropPrefix? [']'] (inner.drop name.length)
  some (name, rest)

/-- A text with each stretch of blanks written as one space. -/
def collapseBlanks : Text → Text
  | [] => []
  | c :: rest =>
    if isBlank c then
      match collapseBlanks rest with
      | ' ' :: more => ' ' :: more
      | more => ' ' :: more
    else c :: collapseBlanks rest

/-- What a name stands for, in whatever case and over however many lines it is written. -/
def lookUp? (definitions : Definitions) (name : Run) : Option Target :=
  (Run.text? name).bind fun name => definitions.find? (collapseBlanks (Text.lower name))

def linkElement (target : Target) (text : Run) : Element :=
  let title := match target.title with
    | some title => [(Attribute.title, title)]
    | none => []
  .mk .link ((.href, target.address) :: title) text [] []

def imageElement (target : Target) (text : Run) : Element :=
  let title := match target.title with
    | some title => [(Attribute.title, title)]
    | none => []
  .mk .image ((.alt, plainRun text) :: (.src, target.address) :: title) [] [] []

/-- The text in brackets of a link or, with `image`, of an image at the head of a run, and the run
behind it. -/
def linkText? (image : Bool) (before : Option Glyph) (run : Run) : Option (Run × Run) :=
  if image then (Run.dropPrefix? ['!', '['] run).bind (bracketed? 0)
  else if preceded '!' before then none
  else (Run.dropPrefix? ['['] run).bind (bracketed? 0)

/-- The element of a link or, with `image`, of an image. -/
def targetElement (image : Bool) (target : Target) (text : Run) : Element :=
  if image then imageElement target text else linkElement target text

/-- A link or image with its address in parentheses. -/
def inlineLinkRule (image : Bool) : Rule := fun before run =>
  match (linkText? image before run).bind fun (text, rest) =>
      (target? rest).map fun (target, rest) => (text, target, rest) with
  | some (text, target, rest) =>
    .element (targetElement image target text) (run.length - rest.length)
  | none => .none

/-- What a definition gives a link; an empty title is none. -/
def Target.withoutEmptyTitle (target : Target) : Target :=
  if target.title.any (·.isEmpty) then { target with title := none } else target

/-- A link or image with the name of a definition in brackets. An empty name stands for the text. -/
def namedLinkRule (image : Bool) (definitions : Definitions) : Rule := fun before run =>
  match (linkText? image before run).bind fun (text, rest) =>
      (nameInBrackets? rest).map fun (name, rest) => (text, name, rest) with
  | some (text, name, rest) =>
    let length := run.length - rest.length
    match lookUp? definitions (if name.isEmpty then text else name) with
    | some target => .element (targetElement image target.withoutEmptyTitle text) length
    | none => .skip length
  | none => .none

/-- A link or image whose text is the name of a definition. -/
def shortLinkRule (image : Bool) (definitions : Definitions) : Rule := fun before run =>
  match linkText? image before run with
  | some (text, rest) =>
    let length := run.length - rest.length
    match lookUp? definitions text with
    | some target => .element (targetElement image target.withoutEmptyTitle text) length
    | none => .skip length
  | none => .none

end ScriptSite.Markdown
