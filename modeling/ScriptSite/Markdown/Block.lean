import ScriptSite.Html.Escape
import ScriptSite.Markdown.Definition

/-!
# Blocks

A source is cut at its blank lines into blocks, and the blocks are turned into a tree of elements,
one after the other, at the end of the element they belong to. Each block is taken by the first of
these that fits: blank lines, what is indented under a list, code, a heading, an underlined heading,
a rule, a list, a quotation, link definitions, a paragraph. What a block leaves over becomes the
next block.

`parse` bounds the work by the length of the source: every step takes at least one character away or
moves an indented block out to its list.
-/

namespace ScriptSite.Markdown

/-- Where blocks are being read. -/
inductive Surroundings
  /-- Nowhere in particular. -/
  | plain
  /-- In an item of a list without blank lines, whose text gets no paragraph. -/
  | tightItem
  /-- In an item behind a blank line. -/
  | looseItem
  /-- In a block whose indentation has been taken away. -/
  | detabbed
  /-- In a quotation. -/
  | quotation
  deriving DecidableEq, Repr

/-- Reading blocks collects the link definitions. -/
abbrev BlockReader := StateM Definitions

/-- Code in a run: its characters are written as entities where needed and are no markup. -/
def codeRun (run : Run) : Run :=
  run.flatMap fun glyph =>
    match glyph.shown? with
    | some c => Run.verbatim (Html.codeEntity c)
    | none => [glyph]

/-- The code of an element that is a block of code. -/
def codeOf? (element : Element) : Option Element :=
  if element.tag = .preformatted then
    match element.children with
    | code :: _ => if code.tag = .code then some code else none
    | [] => none
  else none

/-- The element with more text at the end of its last child, if that is a block of code. -/
def extendCode (more : Run) (parent : Element) : Element :=
  match parent.last?.bind fun block => (codeOf? block).map fun code => (block, code) with
  | some (block, code) =>
    let code := code.withLead (code.lead ++ more)
    parent.replaceLast (block.withChildren (code :: block.children.drop 1))
  | none => parent

/-- A new block of code at the end of an element, or more lines for the block of code that ends
it. -/
def addCode (block : Run) (parent : Element) : Element :=
  let text : Run := codeRun (Run.trimRight block) ++ [.verbatim '\n']
  match parent.last?.bind codeOf? with
  | some _ => extendCode (.verbatim '\n' :: text) parent
  | none =>
    parent.append ((Element.empty .preformatted).append (Element.ofRun .code text))

/-- Whether an element can hold what is indented under it. -/
def holdsIndented (parent : Element) : Bool :=
  parent.tag = .item || parent.last?.any fun last => last.tag.isList

/-- How deep `depth` steps of indentation reach into the lists that end an element, counted from
`level`; the walk goes down at most `steps` elements. -/
def indentLevel (depth : Nat) : (steps : Nat) → (level : Nat) → Element → Nat
  | 0, level, _ => level
  | steps + 1, level, element =>
    match element.last? with
    | some child =>
      if level < depth && child.tag.isList then indentLevel depth steps (level + 1) child
      else if level < depth && child.tag = .item then indentLevel depth steps level child
      else level
    | none => level

/-- Changes the element that `indentLevel` reaches. -/
def updateAtIndent (depth : Nat) (update : Element → BlockReader Element) :
    (steps : Nat) → (level : Nat) → Element → BlockReader Element
  | 0, _, element => update element
  | steps + 1, level, element => do
    match element.last? with
    | some child =>
      if level < depth && child.tag.isList then
        return element.replaceLast (← updateAtIndent depth update steps (level + 1) child)
      else if level < depth && child.tag = .item then
        return element.replaceLast (← updateAtIndent depth update steps level child)
      else update element
    | none => update element

/-- An element with its lead put into a paragraph, if it has one. -/
def leadToParagraph (element : Element) : Element :=
  if element.lead.isEmpty then element
  else
    (element.withLead []).withChildren (Element.ofRun .paragraph element.lead :: element.children)

/-- An item with the run behind its last child put into a paragraph, if there is one. -/
def tailToParagraph (element : Element) : Element :=
  match element.last? with
  | some last =>
    if last.tail.isEmpty then element
    else
      (element.replaceLast (last.withTail [])).append
        (Element.ofRun .paragraph (Run.trimLeft last.tail))
  | none => element

/-- A list whose last item is made ready for a blank line behind it. -/
def loosenLast (list : Element) : Element :=
  match list.last? with
  | some item => list.replaceLast (tailToParagraph (leadToParagraph item))
  | none => list

/-- A paragraph at the end of an element. In an item of a list without blank lines the text stands
in the item itself. -/
def addParagraph (surroundings : Surroundings) (block : Run) (parent : Element) : Element :=
  if block.allBlank then parent
  else if surroundings ≠ .tightItem then
    parent.append (Element.ofRun .paragraph (Run.trimLeft block))
  else
    match parent.last? with
    | some last => parent.replaceLast (last.withTail (last.tail ++ .char '\n' :: block))
    | none =>
      if parent.lead.isEmpty then parent.withLead (Run.trimLeft block)
      else parent.withLead (parent.lead ++ .char '\n' :: Run.trimLeft block)

/-- The block that begins the rest of the work, if there is anything in it. -/
def pushBlock (block : Run) (rest : List Run) : List Run :=
  if block.isEmpty then rest else block :: rest

/-- Reads blocks at the end of `parent`. -/
def readBlocks : (steps : Nat) → Surroundings → (parent : Element) → List Run → BlockReader Element
  | 0, _, parent, _ => pure parent
  | _ + 1, _, parent, [] => pure parent
  | steps + 1, around, parent, block :: rest => do
    let isBreak : Bool := block.startsWith ['\n']
    if block.isEmpty || isBreak then
      -- Blank lines end nothing, but a block of code keeps them.
      let filler := Run.verbatim (if isBreak then ['\n'] else ['\n', '\n'])
      readBlocks steps around (extendCode filler parent) (pushBlock (block.drop 1) rest)
    else if isIndented block && around ≠ .detabbed && holdsIndented parent then
      let depth := (splitSpaces block).1 / indentWidth
      let start := if around = .tightItem then 1 else 0
      let block := looseDetab (indentLevel depth steps start parent) block
      let parent ←
        if parent.tag = .item then
          match parent.last? with
          | some last =>
            if last.tag.isList then do
              let last ← readBlocks steps .detabbed last [block]
              pure (parent.replaceLast last)
            else readBlocks steps .detabbed parent [block]
          | none => readBlocks steps .detabbed parent [block]
        else
          updateAtIndent depth (fun target => do
            if target.tag = .item then readBlocks steps .detabbed target [block]
            else
              match target.last? with
              | some last =>
                if last.tag = .item then do
                  let last ← readBlocks steps .detabbed (leadToParagraph last) block.paragraphs
                  pure (target.replaceLast last)
                else do
                  let item ← readBlocks steps .detabbed (Element.empty .item) [block]
                  pure (target.append item)
              | none => do
                let item ← readBlocks steps .detabbed (Element.empty .item) [block]
                pure (target.append item)) steps start parent
      readBlocks steps around parent rest
    else if isIndented block then
      let (code, after) := detab block
      readBlocks steps around (addCode code parent) (pushBlock after rest)
    else
      match heading? block with
      | some (before, level, text, after) =>
        let parent ← if before.isEmpty then pure parent else readBlocks steps around parent [before]
        let parent := parent.append (Element.ofRun (.heading level) (Run.trim text))
        let after := if around = .looseItem then looseDetab 1 after else after
        readBlocks steps around parent (pushBlock after rest)
      | none =>
      match underlinedHeading? block with
      | some (level, title, after) =>
        let parent := parent.append (Element.ofRun (.heading level) (Run.trim title))
        let rest := if after.isEmpty then rest else Run.unlines after :: rest
        readBlocks steps around parent rest
      | none =>
      match splitAtRule? block.lines with
      | some (before, after) =>
        let before := Run.dropWhileRight (·.is '\n') (Run.unlines before)
        let parent ← if before.isEmpty then pure parent else readBlocks steps around parent [before]
        let after := (Run.unlines after).dropWhile (·.is '\n')
        readBlocks steps around (parent.append (Element.empty .rule)) (pushBlock after rest)
      | none =>
      match item? block with
      | some (kind, _) =>
        let items := listItems block
        -- The items that follow another item of a list without a blank line between them.
        let addItem (list : Element) (item : Run) : BlockReader Element := do
          if isIndented item then
            match list.last? with
            | some last => do
              let last ← readBlocks steps .tightItem last [item]
              pure (list.replaceLast last)
            | none => pure list
          else do
            let item ← readBlocks steps .tightItem (Element.empty .item) [item]
            pure (list.append item)
        let parent ←
          match parent.last? with
          | some last =>
            if last.tag.isList then do
              let first ← readBlocks steps .looseItem (Element.empty .item) (items.take 1)
              let list ← (items.drop 1).foldlM addItem ((loosenLast last).append first)
              pure (parent.replaceLast list)
            else if parent.tag.isList then items.foldlM addItem parent
            else do
              let list ← items.foldlM addItem (Element.empty kind.tag)
              pure (parent.append list)
          | none =>
            if parent.tag.isList then items.foldlM addItem parent
            else do
              let list ← items.foldlM addItem (Element.empty kind.tag)
              pure (parent.append list)
        readBlocks steps around parent rest
      | none =>
      match quotation? block with
      | some (before, quote) =>
        let parent ← readBlocks steps around parent [before]
        let parent ←
          match parent.last? with
          | some last =>
            if last.tag = .quotation then do
              let last ← readBlocks steps .quotation last quote.paragraphs
              pure (parent.replaceLast last)
            else do
              let quote ← readBlocks steps .quotation (Element.empty .quotation) quote.paragraphs
              pure (parent.append quote)
          | none => do
            let quote ← readBlocks steps .quotation (Element.empty .quotation) quote.paragraphs
            pure (parent.append quote)
        readBlocks steps around parent rest
      | none =>
      match definition? block with
      | some (before, name, target, after) =>
        modify fun definitions =>
          match definedName? name with
          | some name => (name, target) :: definitions
          | none => definitions
        let rest := if after.allBlank then rest else after.dropWhile (·.is '\n') :: rest
        let rest :=
          if before.allBlank then rest else Run.dropWhileRight (·.is '\n') before :: rest
        readBlocks steps around parent rest
      | none => readBlocks steps around (addParagraph around block parent) rest

/-- A bound on the number of blocks, nested and in a row, that a source can give. -/
def readSteps (source : Run) : Nat :=
  4 * (source.length + 4)

/-- The tree of a source and the link definitions in it. -/
def parseBlocks (source : Run) : Element × Definitions :=
  (readBlocks (readSteps source) .plain (Element.empty .document) source.paragraphs).run []

end ScriptSite.Markdown
