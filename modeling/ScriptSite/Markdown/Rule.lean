import ScriptSite.Markdown.Block
import ScriptSite.Markdown.Html

/-!
# Inline rules

An inline rule looks at one place of a run, the glyph before it and the run from there on, and says
what it makes of the place. This file holds the rules for code, for characters behind a backslash,
for addresses in angle brackets, for line breaks, for HTML tags and entities, and for marks of
emphasis that stand alone.
-/

namespace ScriptSite.Markdown

/-- What a rule makes of a place in a run. -/
inductive Finding
  /-- Nothing. -/
  | none
  /-- The next `length` glyphs stay as they are and are not looked at again by this rule. -/
  | skip (length : Nat)
  /-- The next `length` glyphs give a text that is set aside. -/
  | held (text : Run) (length : Nat)
  /-- The next `length` glyphs give an element. -/
  | element (element : Element) (length : Nat)

/-- An inline rule. -/
abbrev Rule := (before : Option Glyph) → Run → Finding

/-- Searches for the shortest beginning of a run, of at least `least` glyphs of the class `allowed`,
behind which `close?` succeeds. `close?` is given the glyph before the place and the run from there
on. The result is the beginning and what `close?` found; `taken` holds the glyphs passed so far, in
reverse order. -/
def shortest? {α : Type} (allowed : Glyph → Bool) (close? : Option Glyph → Run → Option α) :
    (least : Nat) → (taken : Run) → Run → Option (Run × α)
  | 0, taken, rest =>
    match close? taken.head? rest with
    | some found => some (taken.reverse, found)
    | none =>
      match rest with
      | [] => none
      | glyph :: rest =>
        if allowed glyph then shortest? allowed close? 0 (glyph :: taken) rest else none
  | _ + 1, _, [] => none
  | least + 1, taken, glyph :: rest =>
    if allowed glyph then shortest? allowed close? least (glyph :: taken) rest else none

/-- Whether the glyph before a place is the given character. -/
def preceded (c : Char) (before : Option Glyph) : Bool :=
  before.any (·.is c)

/-- The code between two equal rows of `width` backticks at the head of a run, and the run behind
it. -/
def codeBetween? (width : Nat) (run : Run) : Option (Run × Run) :=
  let row := List.replicate width '`'
  let close? (before : Option Glyph) (rest : Run) : Option Run :=
    if preceded '`' before then none
    else
      match Run.dropPrefix? row rest with
      | some after => if after.startsWith ['`'] then none else some after
      | none => none
  (Run.dropPrefix? row run).bind fun inner => shortest? (fun _ => true) close? 1 [] inner

/-- The code at the head of a run between rows of at most `width` backticks, longest rows first. -/
def code? (run : Run) : (width : Nat) → Option (Run × Run)
  | 0 => none
  | width + 1 => (codeBetween? (width + 1) run).or (code? run width)

/-- Code between backticks. Pairs of backslashes before a backtick are single backslashes. -/
def codeRule : Rule := fun before run =>
  if preceded '\\' before then .none
  else
    let slashes := (run.takeWhile (·.is '\\')).length
    if 0 < slashes then
      if slashes % 2 = 0 ∧ Run.startsWith ['`'] (run.drop slashes) then
        .held (List.replicate (slashes / 2) (.escaped '\\')) slashes
      else .none
    else
      match code? run (run.takeWhile (·.is '`')).length with
      | some (code, rest) =>
        .element (Element.ofRun .code (codeRun (Run.trim code))) (run.length - rest.length)
      | none => .none

/-- The characters that a backslash protects from being markup. -/
def protectable : Text :=
  ['\\', '`', '*', '_', '\x7b', '\x7d', '[', ']', '(', ')', '>', '#', '+', '-', '.', '!', '"', '\'']

/-- A character behind a backslash. -/
def escapeRule : Rule := fun _ run =>
  match run with
  | .char '\\' :: .char c :: _ => if protectable.contains c then .held [.escaped c] 2 else .skip 2
  | .char '\\' :: _ :: _ => .skip 2
  | _ => .none

mutual

/-- The text that an element holds, without the run behind it. -/
def Element.content : Element → Run
  | .mk _ _ lead children _ => lead ++ contentOfChildren children

/-- The text that elements hold, each followed by the run behind it. -/
def contentOfChildren : List Element → Run
  | [] => []
  | .mk _ _ lead children tail :: rest =>
    lead ++ contentOfChildren children ++ tail ++ contentOfChildren rest

end

/-- A run as plain text: what has been set aside is put back, and elements give their text. -/
def plainRun (run : Run) : Run :=
  run.flatMap fun glyph =>
    match glyph with
    | .held text => text
    | .element element => element.content
    | glyph => [glyph]

/-- An address in angle brackets. -/
def addressRule : Rule := fun _ run =>
  let isOneOf (chars : Text) (glyph : Option Glyph) : Bool :=
    glyph.any (·.satisfies chars.contains)
  let afterScheme? : Option Run :=
    match Run.dropPrefix? ['<'] run with
    | none => none
    | some rest =>
      let rest? : Option Run :=
        if isOneOf ['f', 'F'] rest.head? then some (rest.drop 1)
        else if isOneOf ['h', 'H'] rest.head? && isOneOf ['t', 'T'] rest[1]? then
          some (rest.drop 2)
        else none
      rest?.bind fun rest =>
        if isOneOf ['t', 'T'] rest.head? && isOneOf ['p', 'P'] rest[1]? then
          let rest := rest.drop 2
          let rest := if isOneOf ['s', 'S'] rest.head? then rest.drop 1 else rest
          Run.dropPrefix? [':', '/', '/'] rest
        else none
  match afterScheme? with
  | none => .none
  | some inner =>
    let rest := inner.dropWhile fun glyph => !(glyph.is '<' || glyph.is '>')
    if Run.startsWith ['>'] rest then
      let address := (run.drop 1).take (run.length - rest.length - 1)
      let shown : Run := address.map fun glyph =>
        match glyph with
        | .char c => .verbatim c
        | glyph => glyph
      .element (.mk .link [(.href, plainRun address)] shown [] []) (run.length - rest.length + 1)
    else .none

/-- The mail address in angle brackets that a run begins with, and the run behind it. -/
def mailAddress? (run : Run) : Option (Run × Run) := do
  let inner ← Run.dropPrefix? ['<'] run
  let isEnd (glyph : Glyph) : Bool := glyph.is '<' || glyph.is '>' || glyph.is ' '
  let user := inner.takeWhile fun glyph => !(isEnd glyph || glyph.is '!')
  -- The last at sign parts the name from the host.
  let host := (user.reverse.takeWhile fun glyph => !glyph.is '@').length
  if user.length ≤ host + 1 then none
  else
    let hostAndRest := inner.drop (user.length - host)
    let host := hostAndRest.takeWhile fun glyph => !(isEnd glyph || glyph.is '@')
    let after ← Run.dropPrefix? ['>'] (hostAndRest.drop host.length)
    if host.isEmpty then none else some (inner.take (inner.length - after.length - 1), after)

/-- The characters that have an entity name in HTML 4. -/
def namedEntities : List (Nat × String) := [
  (34, "quot"), (38, "amp"), (60, "lt"), (62, "gt"), (160, "nbsp"), (161, "iexcl"), (162, "cent"),
  (163, "pound"), (164, "curren"), (165, "yen"), (166, "brvbar"), (167, "sect"), (168, "uml"),
  (169, "copy"), (170, "ordf"), (171, "laquo"), (172, "not"), (173, "shy"), (174, "reg"),
  (175, "macr"), (176, "deg"), (177, "plusmn"), (178, "sup2"), (179, "sup3"), (180, "acute"),
  (181, "micro"), (182, "para"), (183, "middot"), (184, "cedil"), (185, "sup1"), (186, "ordm"),
  (187, "raquo"), (188, "frac14"), (189, "frac12"), (190, "frac34"), (191, "iquest"),
  (192, "Agrave"), (193, "Aacute"), (194, "Acirc"), (195, "Atilde"), (196, "Auml"),
  (197, "Aring"), (198, "AElig"), (199, "Ccedil"), (200, "Egrave"), (201, "Eacute"),
  (202, "Ecirc"), (203, "Euml"), (204, "Igrave"), (205, "Iacute"), (206, "Icirc"), (207, "Iuml"),
  (208, "ETH"), (209, "Ntilde"), (210, "Ograve"), (211, "Oacute"), (212, "Ocirc"),
  (213, "Otilde"), (214, "Ouml"), (215, "times"), (216, "Oslash"), (217, "Ugrave"),
  (218, "Uacute"), (219, "Ucirc"), (220, "Uuml"), (221, "Yacute"), (222, "THORN"), (223, "szlig"),
  (224, "agrave"), (225, "aacute"), (226, "acirc"), (227, "atilde"), (228, "auml"),
  (229, "aring"), (230, "aelig"), (231, "ccedil"), (232, "egrave"), (233, "eacute"),
  (234, "ecirc"), (235, "euml"), (236, "igrave"), (237, "iacute"), (238, "icirc"), (239, "iuml"),
  (240, "eth"), (241, "ntilde"), (242, "ograve"), (243, "oacute"), (244, "ocirc"),
  (245, "otilde"), (246, "ouml"), (247, "divide"), (248, "oslash"), (249, "ugrave"),
  (250, "uacute"), (251, "ucirc"), (252, "uuml"), (253, "yacute"), (254, "thorn"), (255, "yuml"),
  (338, "OElig"), (339, "oelig"), (352, "Scaron"), (353, "scaron"), (376, "Yuml"), (402, "fnof"),
  (710, "circ"), (732, "tilde"), (913, "Alpha"), (914, "Beta"), (915, "Gamma"), (916, "Delta"),
  (917, "Epsilon"), (918, "Zeta"), (919, "Eta"), (920, "Theta"), (921, "Iota"), (922, "Kappa"),
  (923, "Lambda"), (924, "Mu"), (925, "Nu"), (926, "Xi"), (927, "Omicron"), (928, "Pi"),
  (929, "Rho"), (931, "Sigma"), (932, "Tau"), (933, "Upsilon"), (934, "Phi"), (935, "Chi"),
  (936, "Psi"), (937, "Omega"), (945, "alpha"), (946, "beta"), (947, "gamma"), (948, "delta"),
  (949, "epsilon"), (950, "zeta"), (951, "eta"), (952, "theta"), (953, "iota"), (954, "kappa"),
  (955, "lambda"), (956, "mu"), (957, "nu"), (958, "xi"), (959, "omicron"), (960, "pi"),
  (961, "rho"), (962, "sigmaf"), (963, "sigma"), (964, "tau"), (965, "upsilon"), (966, "phi"),
  (967, "chi"), (968, "psi"), (969, "omega"), (977, "thetasym"), (978, "upsih"), (982, "piv"),
  (8194, "ensp"), (8195, "emsp"), (8201, "thinsp"), (8204, "zwnj"), (8205, "zwj"), (8206, "lrm"),
  (8207, "rlm"), (8211, "ndash"), (8212, "mdash"), (8216, "lsquo"), (8217, "rsquo"),
  (8218, "sbquo"), (8220, "ldquo"), (8221, "rdquo"), (8222, "bdquo"), (8224, "dagger"),
  (8225, "Dagger"), (8226, "bull"), (8230, "hellip"), (8240, "permil"), (8242, "prime"),
  (8243, "Prime"), (8249, "lsaquo"), (8250, "rsaquo"), (8254, "oline"), (8260, "frasl"),
  (8364, "euro"), (8465, "image"), (8472, "weierp"), (8476, "real"), (8482, "trade"),
  (8501, "alefsym"), (8592, "larr"), (8593, "uarr"), (8594, "rarr"), (8595, "darr"),
  (8596, "harr"), (8629, "crarr"), (8656, "lArr"), (8657, "uArr"), (8658, "rArr"), (8659, "dArr"),
  (8660, "hArr"), (8704, "forall"), (8706, "part"), (8707, "exist"), (8709, "empty"),
  (8711, "nabla"), (8712, "isin"), (8713, "notin"), (8715, "ni"), (8719, "prod"), (8721, "sum"),
  (8722, "minus"), (8727, "lowast"), (8730, "radic"), (8733, "prop"), (8734, "infin"),
  (8736, "ang"), (8743, "and"), (8744, "or"), (8745, "cap"), (8746, "cup"), (8747, "int"),
  (8756, "there4"), (8764, "sim"), (8773, "cong"), (8776, "asymp"), (8800, "ne"), (8801, "equiv"),
  (8804, "le"), (8805, "ge"), (8834, "sub"), (8835, "sup"), (8836, "nsub"), (8838, "sube"),
  (8839, "supe"), (8853, "oplus"), (8855, "otimes"), (8869, "perp"), (8901, "sdot"),
  (8968, "lceil"), (8969, "rceil"), (8970, "lfloor"), (8971, "rfloor"), (9001, "lang"),
  (9002, "rang"), (9674, "loz"), (9824, "spades"), (9827, "clubs"), (9829, "hearts"),
  (9830, "diams")]

/-- The characters that a run shows, one by one, where a protected character counts as its number
between two controls. -/
def spelledOut (run : Run) : Text :=
  run.flatMap fun glyph =>
    match glyph with
    | .char c | .verbatim c => [c]
    | .escaped c => Char.ofNat 2 :: Text.ofNat c.toNat ++ [Char.ofNat 3]
    | _ => []

/-- A character as a numeric entity. -/
def numberedEntity (c : Char) : Run :=
  .ampersand :: Run.ofText ('#' :: Text.ofNat c.toNat ++ [';'])

/-- A character as an entity, named if it has a name. -/
def characterEntity (c : Char) : Run :=
  match namedEntities.find? (·.1 = c.toNat) with
  | some (_, name) => .ampersand :: Run.ofText (name.toList ++ [';'])
  | none => numberedEntity c

/-- A mail address in angle brackets. It is written in entities, to hide it from harvesters. -/
def mailRule : Rule := fun _ run =>
  match mailAddress? run with
  | none => .none
  | some (address, rest) =>
    let mail := spelledOut (plainRun address)
    let mail := (Text.dropPrefix? "mailto:".toList mail).getD mail
    let shown : Run := (mail.flatMap characterEntity).map fun glyph =>
      match glyph with
      | .char c => .verbatim c
      | glyph => glyph
    .element (.mk .link [(.href, ("mailto:".toList ++ mail).flatMap numberedEntity)] shown [] [])
      (run.length - rest.length)

/-- Two spaces at the end of a line. -/
def lineBreakRule : Rule := fun _ run =>
  if run.startsWith [' ', ' ', '\n'] then .element (Element.empty .lineBreak) 3 else .none

/-- The run behind an HTML comment that a run begins with. -/
def afterComment? (run : Run) : Option Run :=
  (Run.dropPrefix? "<!--".toList run).bind fun inner =>
    let rec go : Run → Option Run
      | [] => none
      | glyph :: rest =>
        match Run.dropPrefix? "-->".toList (glyph :: rest) with
        | some after => some after
        | none => if Run.startsWith "<!--".toList (glyph :: rest) then none else go rest
    go inner

/-- The run behind an HTML tag that a run begins with. -/
def afterTag? (run : Run) : Option Run := do
  let inner ← Run.dropPrefix? ['<'] run
  let inner := (Run.dropPrefix? ['/'] inner).getD inner
  let first ← inner.head?
  if !first.satisfies Char.isAlpha then none
  else
    let isBracket (glyph : Glyph) : Bool := glyph.is '<' || glyph.is '>'
    let rest := inner.dropWhile fun glyph => !(isBracket glyph || glyph.is '@' || glyph.is ' ')
    let rest :=
      if Run.startsWith [' '] rest then rest.dropWhile fun glyph => !isBracket glyph else rest
    Run.dropPrefix? ['>'] rest

/-- A protected character without its protection. -/
def unprotect (run : Run) : Run :=
  run.map fun glyph =>
    match glyph with
    | .escaped c => .char c
    | glyph => glyph

/-- A stretch of HTML as it was written: elements that rules have found in it are HTML again, and
protected characters have their backslashes back. `depth` bounds the nesting of elements. -/
def asWritten : (depth : Nat) → Run → Run
  | 0, run => run
  | depth + 1, run =>
    run.flatMap fun glyph =>
      match glyph with
      | .held text => .char '\\' :: unprotect text
      | .element element => asWritten depth element.html
      | .escaped c => [.char c]
      | glyph => [glyph]

/-- A stretch of HTML that is kept as it is. -/
def keepHtml (run rest : Run) : Finding :=
  let length := run.length - rest.length
  .held [.raw (asWritten (depthOfRun (run.take length) + 1) (run.take length))] length

/-- An HTML tag or comment. -/
def htmlRule : Rule := fun _ run =>
  match (afterTag? run).or (afterComment? run) with
  | some rest => keepHtml run rest
  | none => .none

def entityRule : Rule := fun _ run =>
  let isHex (c : Char) : Bool :=
    c.isDigit || ('a' ≤ c && c ≤ 'f') || ('A' ≤ c && c ≤ 'F')
  let closed (p : Char → Bool) (inner : Run) : Finding :=
    let name := inner.takeWhile (·.satisfies p)
    match Run.dropPrefix? [';'] (inner.drop name.length) with
    | some rest => if name.isEmpty then .none else keepHtml run rest
    | none => .none
  match run with
  | .char '&' :: .char '#' :: .char 'x' :: inner => closed isHex inner
  | .char '&' :: .char '#' :: inner => closed Char.isDigit inner
  | .char '&' :: inner => closed Char.isAlphanum inner
  | _ => .none

/-- A row of at most three stars or underscores with a blank or nothing on either side. -/
def loneMarkRule : Rule := fun before run =>
  if before.all (·.isBlank) then
    let row (mark : Char) : Nat := (run.takeWhile (·.is mark)).length
    let length := max (row '*') (row '_')
    if 1 ≤ length ∧ length ≤ 3 ∧ (run[length]?).all (·.isBlank) then
      .held (run.take length) length
    else .none
  else .none

end ScriptSite.Markdown
