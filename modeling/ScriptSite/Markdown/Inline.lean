import ScriptSite.Markdown.Emphasis
import ScriptSite.Markdown.Link

/-!
# Inline markup

The runs of a block tree are searched for inline markup. Rules are applied in a fixed order; each is
applied until it finds nothing more, starting over after each find. What a rule finds becomes a
single glyph, so that later rules do not look into it; the text of an element is searched with the
rules that come after the one that found it. When all rules are through, the finds are put in place:
texts that were set aside go back into the run, and elements become children.

The children that this gives to an element are then gone through in the same way, because the
search did not reach what is nested more deeply.
-/

namespace ScriptSite.Markdown

def inlineRules (definitions : Definitions) : List Rule :=
  [codeRule, escapeRule, namedLinkRule false definitions, inlineLinkRule false,
    inlineLinkRule true, namedLinkRule true definitions, shortLinkRule false definitions,
    shortLinkRule true definitions, addressRule, mailRule, lineBreakRule, htmlRule, entityRule,
    loneMarkRule, emphasisRule '*', emphasisRule '_']

/-- The first find of a rule in a run: the run before it, the glyph it becomes and the run behind
it. `skip` glyphs are passed over first; `passed` holds the glyphs passed so far in reverse order.
-/
def firstFind? (rule : Rule) : (skip : Nat) → (passed : Run) → Run → Option (Run × Glyph × Run)
  | _, _, [] => none
  | skip + 1, passed, glyph :: rest => firstFind? rule skip (glyph :: passed) rest
  | 0, passed, glyph :: rest =>
    match rule passed.head? (glyph :: rest) with
    | .none => firstFind? rule 0 (glyph :: passed) rest
    | .skip length => firstFind? rule (length - 1) (glyph :: passed) rest
    | .held text length => some (passed.reverse, .held text, rest.drop (length - 1))
    | .element element length => some (passed.reverse, .element element, rest.drop (length - 1))

/-- A run in which the finds of the rules are single glyphs. `steps` bounds the number of finds, one
inside the other and one after the other. -/
def applyRules : (steps : Nat) → List Rule → Run → Run
  | 0, _, run => run
  | _ + 1, [], run => run
  | steps + 1, rule :: later, run =>
    match firstFind? rule 0 [] run with
    | none => applyRules steps later run
    | some (before, .element element, after) =>
      let inner (child : Element) : Element :=
        (child.withLead (applyRules steps later child.lead)).withTail
          (applyRules steps (rule :: later) child.tail)
      let element := (element.withLead (applyRules steps later element.lead)).withChildren
        (element.children.map inner)
      applyRules steps (rule :: later) (before ++ .element element :: after)
    | some (before, glyph, after) => applyRules steps (rule :: later) (before ++ glyph :: after)

/-- A run that has become part of a longer one: its addresses are ordinary characters again. -/
def openUp (run : Run) : Run :=
  run.map fun glyph =>
    match glyph with
    | .verbatim c => .char c
    | glyph => glyph

/-- Puts more glyphs behind a run. A run that is put together from several parts is opened up. -/
def joinRuns (run more : Run) : Run :=
  if run.isEmpty then more else if more.isEmpty then run else openUp run ++ openUp more

/-- Puts a run behind the last of the elements or, if there is none, behind the lead. -/
def appendRun (more : Run) : Run × List Element → Run × List Element
  | (lead, []) => (joinRuns lead more, [])
  | (lead, elements) =>
    match elements.getLast? with
    | some last => (lead, elements.dropLast ++ [last.withTail (joinRuns last.tail more)])
    | none => (lead, elements)

/-- Whether a run has finds in it. -/
def hasFinds (run : Run) : Bool :=
  run.any fun glyph => match glyph with
    | .held _ | .element _ => true
    | _ => false

mutual

/-- A run with its finds put in place: the run before the first element, and the elements, each with
the run behind it. -/
def settle : (steps : Nat) → Run → Run × List Element
  | 0, run => (run, [])
  | steps + 1, run =>
    if hasFinds run then settleGlyphs steps [] ([], []) run else (run, [])

/-- Goes through a run with finds. `passed` holds the glyphs since the last find in reverse order,
which are opened up, and `done` what has been put in place. -/
def settleGlyphs : (steps : Nat) → (passed : Run) → (done : Run × List Element) → Run →
    Run × List Element
  | 0, _, done, _ => done
  | _ + 1, passed, done, [] => appendRun passed.reverse done
  | steps + 1, passed, done, glyph :: rest =>
    match glyph with
    | .held text =>
      settleGlyphs steps [] (appendRun text (appendRun (openUp passed.reverse) done)) rest
    | .element element =>
      let (lead, elements) := appendRun (openUp passed.reverse) done
      settleGlyphs steps [] (lead, elements ++ [settleElement steps element]) rest
    | glyph => settleGlyphs steps (glyph :: passed) done rest

/-- An element with the finds in its own run, and in and behind its children, put in place. -/
def settleElement : (steps : Nat) → Element → Element
  | 0, element => element
  | steps + 1, element =>
    let (lead, first) := settle steps element.lead
    let children := element.children.flatMap fun child =>
      let (tail, behind) := settle steps child.tail
      let (childLead, inside) := settle steps child.lead
      ((child.withTail tail).withLead childLead).withChildren (inside ++ child.children) :: behind
    (element.withLead lead).withChildren (first ++ children)

end

/-- A bound on the work that a run can give. -/
def inlineSteps (run : Run) : Nat :=
  8 * (run.length + 16)

/-- A run searched for inline markup: the run before the first element, and the elements, each with
the run behind it. -/
def searchRun (rules : List Rule) (run : Run) : Run × List Element :=
  settle (inlineSteps run) (applyRules (inlineSteps run) rules run)

/-- Whether a run can hold markup. -/
def isSearchable (run : Run) : Bool :=
  run.any fun glyph => match glyph with
    | .verbatim _ => false
    | _ => true

mutual

/-- An element whose children have been searched, and all that is below them. -/
def searchChildren (rules : List Rule) : (steps : Nat) → Element → Element
  | 0, element => element
  | steps + 1, element =>
    let given := element.children.map fun child => (child, true)
    element.withChildren ((searchEach rules steps given).map (·.1))

/-- Searches children in order. The elements found behind a child are searched next; they are marked
`false`, the given children `true`. -/
def searchEach (rules : List Rule) : (steps : Nat) → List (Element × Bool) → List (Element × Bool)
  | 0, children => children
  | _ + 1, [] => []
  | steps + 1, (child, given) :: rest =>
    let (lead, inside) :=
      if isSearchable child.lead then searchRun rules child.lead else (child.lead, [])
    let (tail, behind) := searchRun rules child.tail
    let searched :=
      ((child.withLead lead).withTail tail).withChildren (inside ++ child.children)
    let settled :=
      if child.children.isEmpty then
        searched.withChildren (inside.map (searchChildren rules steps))
      else
        -- The new children are gone through with the old ones, and then once more.
        let children := searchEach rules steps (searched.children.map fun child => (child, true))
        searched.withChildren (searchAgain rules steps inside.length children)
    (settled, given) :: searchEach rules steps (behind.map (fun child => (child, false)) ++ rest)

/-- Goes once more through the first `count` of the given children. -/
def searchAgain (rules : List Rule) :
    (steps : Nat) → (count : Nat) → List (Element × Bool) → List Element
  | 0, _, children => children.map (·.1)
  | _ + 1, _, [] => []
  | _ + 1, 0, children => children.map (·.1)
  | steps + 1, count + 1, (child, true) :: rest =>
    searchChildren rules steps child :: searchAgain rules steps count rest
  | steps + 1, count + 1, (child, false) :: rest =>
    child :: searchAgain rules steps (count + 1) rest

end

mutual

/-- The number of glyphs and elements in an element. -/
def Element.size : Element → Nat
  | .mk _ _ lead children tail => lead.length + sizeOfChildren children + tail.length + 1

/-- The number of glyphs and elements in elements. -/
def sizeOfChildren : List Element → Nat
  | [] => 0
  | child :: rest => child.size + sizeOfChildren rest

end

/-- A tree with its inline markup found. -/
def searchTree (definitions : Definitions) (root : Element) : Element :=
  searchChildren (inlineRules definitions) (4 * root.size + 16) root

end ScriptSite.Markdown
