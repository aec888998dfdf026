import ScriptSite.Catalog.Read
import ScriptSite.Proofs.Xml.Document

/-!
# What a catalog lists

A catalog is written as entries with gaps between them. A gap may hold whatever an element may hold
except for elements with the wanted name side by side with the entries; what is nested in other
elements does not matter (`IsGap`). However the entries of a catalog are written, reading it gives
them in their order (`readText_of_isCatalog`, `readBytes_of_isCatalog`).
-/

namespace ScriptSite

open Xml

namespace Catalog

variable {element written gap rest pending document : Text} {entry : CatalogEntry}
  {entries others : List CatalogEntry} {nodes more : List Node} {parent : OpenElement}
  {outer : List OpenElement} {expansion : Expansion}
  {expand : Text → Text → Progress → Except Stop Progress}

/-- Whether a text can stand between the entries of a catalog. -/
def IsGap (element gap : Text) : Prop :=
  ∃ names, IsContent Bindings.initial names gap ∧ element ∉ names

/-- Whether the attributes of an element are those of an entry: its name, and its tag unless that is
empty. -/
def HasAttributes (attributes : List (Text × Text)) (entry : CatalogEntry) : Prop :=
  attributes.lookup "name".toList = some entry.name ∧
    (attributes.lookup "tag".toList).getD [] = entry.tag

/-- Whether a text writes an entry, as an element with its description inside. -/
inductive IsEntry (element : Text) (entry : CatalogEntry) : Text → Prop
  | intro {tag description blanks : Text} {opened : OpenElement}
      (spells : SpellsTag Bindings.initial tag opened) (named : opened.name = element)
      (hasAttributes : HasAttributes opened.attributes entry)
      (describes : SpellsText description entry.description) (blank : IsSpaces blanks) :
      IsEntry element entry ('<' :: (tag ++ '>' :: (description ++ '<' :: '/' ::
        (opened.writtenName ++ (blanks ++ ['>'])))))
  | closed {tag : Text} {opened : OpenElement} (spells : SpellsTag Bindings.initial tag opened)
      (named : opened.name = element) (hasAttributes : HasAttributes opened.attributes entry)
      (undescribed : entry.description = []) : IsEntry element entry ('<' :: (tag ++ ['/', '>']))

/-- Whether a text writes entries with gaps around them. -/
inductive IsListing (element : Text) : List CatalogEntry → Text → Prop
  | gap {gap : Text} (isGap : IsGap element gap) : IsListing element [] gap
  | entry {gap written rest : Text} {entry : CatalogEntry} {entries : List CatalogEntry}
      (isGap : IsGap element gap) (isEntry : IsEntry element entry written)
      (listing : IsListing element entries rest) :
      IsListing element (entry :: entries) (gap ++ (written ++ rest))

/-- The name of the root element of a catalog. -/
def rootName : Text :=
  ['r', 'o', 'o', 't']

/-- Whether a text is a document that lists entries. -/
def IsCatalog (element : Text) (entries : List CatalogEntry) (document : Text) : Prop :=
  ∃ listing, IsListing element entries listing ∧
    document = '<' :: (rootName ++ '>' :: (listing ++ '<' :: '/' :: (rootName ++ ['>'])))

/-- Whether an entry may stand in a catalog with this element: examples have tags. -/
def IsTagged (element : Text) (entry : CatalogEntry) : Prop :=
  element = exampleElement → entry.tag ≠ []

theorem nodeEntries_append (first : nodeEntries element nodes = .ok entries)
    (second : nodeEntries element more = .ok others) :
    nodeEntries element (nodes ++ more) = .ok (entries ++ others) := by
  rw [nodeEntries] at first second ⊢
  rw [List.mapM_append]
  cases firstFound : nodes.mapM (entryOfNode element) with
  | error fault => simp [firstFound, bind, Except.bind] at first
  | ok found =>
      cases secondFound : more.mapM (entryOfNode element) with
      | error fault => simp [secondFound, bind, Except.bind] at second
      | ok foundToo =>
          simp only [firstFound, secondFound, bind, Except.bind, pure, Except.pure,
            Except.ok.injEq] at first second ⊢
          rw [List.filterMap_append, first, second]

theorem nodeEntries_singleton {node : Node} {found : Option CatalogEntry}
    (isFound : entryOfNode element node = .ok found) :
    nodeEntries element [node] = .ok found.toList := by
  simp only [nodeEntries, List.mapM_cons, isFound, List.mapM_nil, bind, Except.bind, pure,
    Except.pure]
  cases found <;> rfl

/-- Nodes without elements of the wanted name list nothing. -/
theorem nodeEntries_of_notMem (absent : element ∉ nodes.filterMap Node.name?) :
    nodeEntries element nodes = .ok [] := by
  induction nodes with
  | nil => rfl
  | cons node nodes ih =>
      have unlisted : entryOfNode element node = .ok none := by
        cases node with
        | text text => rfl
        | element name attributes children =>
            have different : name ≠ element := by
              rintro rfl
              exact absent (by simp [Node.name?])
            rw [entryOfNode, if_neg different]
      have later : element ∉ nodes.filterMap Node.name? := by
        cases node <;> simp_all [Node.name?]
      exact nodeEntries_append (nodeEntries_singleton unlisted) (ih later)

theorem leadingText_pendingNodes (pending : Text) :
    leadingText (pendingNodes pending) = pending.reverse := by
  rw [pendingNodes]
  split
  · rename_i empty
    rw [List.isEmpty_iff.mp empty]
    rfl
  · simp [leadingText]

theorem entryOfNode_of_hasAttributes {attributes : List (Text × Text)}
    (hasAttributes : HasAttributes attributes entry) (tagged : IsTagged element entry)
    (describes : leadingText nodes = entry.description) :
    entryOfNode element (.element element attributes nodes) = .ok (some entry) := by
  have isTagged : ¬(element = exampleElement ∧ entry.tag.isEmpty = true) := by
    rintro ⟨isExample, untagged⟩
    exact tagged isExample (List.isEmpty_iff.mp untagged)
  have read : Catalog.entry element attributes nodes = .ok entry := by
    simp only [Catalog.entry, hasAttributes.1, hasAttributes.2, if_neg isTagged, describes]
  rw [entryOfNode, if_pos rfl, read]
  rfl

/-- Reading an entry adds a node that stands for it. -/
theorem IsEntry.passes (isEntry : IsEntry element entry written) (tagged : IsTagged element entry)
    (atRoot : parent.bindings = Bindings.initial) (outer : List OpenElement) (pending : Text)
    (expansion : Expansion) :
    ∃ node, entryOfNode element node = .ok (some entry) ∧
      Passes expand ⟨parent :: outer, pending, expansion⟩ written
        ⟨parent.adding (pendingNodes pending ++ [node]) :: outer, [], expansion⟩ rest := by
  cases isEntry with
  | @intro tag description blanks opened spells named hasAttributes describes blank =>
      rw [← atRoot] at spells
      let around := parent.adding (pendingNodes pending) :: outer
      have innerPasses : Passes expand ⟨opened :: around, [], expansion⟩ description
          ⟨opened.adding [] :: around, entry.description.reverse ++ [], expansion⟩
          ('<' :: '/' :: (opened.writtenName ++ (blanks ++ ['>'])) ++ rest) :=
        passes_text describes rfl
      refine ⟨_, ?_, passes_element spells blank innerPasses⟩
      rw [named]
      exact entryOfNode_of_hasAttributes hasAttributes tagged
        (by simp [leadingText_pendingNodes])
  | @closed tag opened spells named hasAttributes undescribed =>
      rw [← atRoot] at spells
      refine ⟨_, ?_, passes_emptyTag spells⟩
      rw [named]
      exact entryOfNode_of_hasAttributes hasAttributes tagged undescribed.symm

/-- Entries begin with a bracket. -/
theorem IsEntry.head? (isEntry : IsEntry element entry written) (rest : Text) :
    (written ++ rest).head? = some '<' := by
  cases isEntry <;> rfl

/-- Reading a listing adds nodes that stand for its entries. -/
theorem IsListing.passes (listing : IsListing element entries written)
    (tagged : ∀ entry ∈ entries, IsTagged element entry)
    (atRoot : parent.bindings = Bindings.initial) (apart : rest.head? = some '<') (pending : Text) :
    ∃ nodes left, nodeEntries element nodes = .ok entries ∧
      Passes expand ⟨parent :: outer, pending, expansion⟩ written
        ⟨parent.adding nodes :: outer, left, expansion⟩ rest := by
  induction listing generalizing parent pending with
  | gap isGap =>
      rcases isGap with ⟨names, isContent, absent⟩
      rcases isContent.passes atRoot apart outer pending expansion with ⟨nodes, left, named, passes⟩
      exact ⟨nodes, left, nodeEntries_of_notMem (named ▸ absent), passes⟩
  | @entry gap written later entry entries isGap isEntry _ ih =>
      rcases List.forall_mem_cons.mp tagged with ⟨taggedFirst, taggedLater⟩
      rcases isGap with ⟨names, isContent, absent⟩
      have apartHere : (written ++ later ++ rest).head? = some '<' := by
        rw [List.append_assoc]
        exact isEntry.head? _
      rcases isContent.passes atRoot apartHere outer pending expansion with
        ⟨gapNodes, gapLeft, named, gapPasses⟩
      have atRootBefore : (parent.adding gapNodes).bindings = Bindings.initial := atRoot
      have entryReads : ∃ node, _ ∧ Passes expand
          ⟨parent.adding gapNodes :: outer, gapLeft, expansion⟩ written _ (later ++ rest) :=
        isEntry.passes taggedFirst atRootBefore outer gapLeft expansion
      rcases entryReads with ⟨node, isFound, entryPasses⟩
      have atRootBehind : ((parent.adding gapNodes).adding
          (pendingNodes gapLeft ++ [node])).bindings = Bindings.initial := atRoot
      rcases ih taggedLater atRootBehind [] with ⟨nodes, left, listed, laterPasses⟩
      refine ⟨gapNodes ++ (pendingNodes gapLeft ++ [node]) ++ nodes, left, ?_, ?_⟩
      · have gapLists : nodeEntries element gapNodes = .ok [] :=
          nodeEntries_of_notMem (named ▸ absent)
        have textLists : nodeEntries element (pendingNodes gapLeft) = .ok [] :=
          nodeEntries_of_notMem (by simp [filterMap_name?_pendingNodes])
        have entryLists := nodeEntries_append textLists (nodeEntries_singleton isFound)
        exact nodeEntries_append (nodeEntries_append gapLists entryLists) listed
      · simpa using gapPasses.trans (entryPasses.trans laterPasses)

/-- The root element of a catalog while nothing has been read inside of it. -/
def openedRoot : OpenElement :=
  { writtenName := rootName, name := rootName, attributes := [], bindings := Bindings.initial }

theorem isName_rootName : IsName rootName := by
  decide

theorem spellsTag_root : SpellsTag Bindings.initial rootName openedRoot :=
  spellsTag_of_isName isName_rootName .nil (by simp) (by simp)

/-- However its entries are written, a catalog is read as a root element that lists them. -/
theorem exists_readDocument_of_isCatalog (isCatalog : IsCatalog element entries document)
    (tagged : ∀ entry ∈ entries, IsTagged element entry) (fixed : Bool) :
    ∃ root, readDocument fixed (Utf8.encode document) = .ok root ∧
      entriesOfRoot element root = .ok entries := by
  rcases isCatalog with ⟨listing, isListing, rfl⟩
  let document := '<' :: (rootName ++ '>' :: (listing ++ '<' :: '/' :: (rootName ++ ['>'])))
  let budget := entityBudget (Utf8.encode document).length
  have reads : ∃ nodes left, nodeEntries element nodes = .ok entries ∧
      Passes (expandContent {} 1) ⟨[openedRoot], [], { budget }⟩ listing
        ⟨[openedRoot.adding nodes], left, { budget }⟩
        ('<' :: '/' :: (rootName ++ ([] ++ ['>']))) := isListing.passes tagged rfl rfl []
  rcases reads with ⟨nodes, left, listed, passes⟩
  refine ⟨.element rootName [] (nodes ++ pendingNodes left), ?_, ?_⟩
  · exact readDocument_of_rootElement (by decide)
      (rootElement_of_passes spellsTag_root .nil passes) fixed
  · have textLists : nodeEntries element (pendingNodes left) = .ok [] :=
      nodeEntries_of_notMem (by simp [filterMap_name?_pendingNodes])
    have both := nodeEntries_append listed textLists
    rw [List.append_nil] at both
    rw [entriesOfRoot, if_pos (by decide), both]

/-- However its entries are written, reading a catalog gives them in their order. -/
theorem readText_of_isCatalog (isCatalog : IsCatalog element entries document)
    (tagged : ∀ entry ∈ entries, IsTagged element entry) :
    Catalog.readText element document = .ok entries := by
  rcases exists_readDocument_of_isCatalog isCatalog tagged true with ⟨root, read, listed⟩
  rw [Catalog.readText, Xml.readText, read]
  exact listed

theorem readBytes_of_isCatalog (isCatalog : IsCatalog element entries document)
    (tagged : ∀ entry ∈ entries, IsTagged element entry) :
    Catalog.readBytes element (Utf8.encode document) = .ok entries := by
  rcases exists_readDocument_of_isCatalog isCatalog tagged false with ⟨root, read, listed⟩
  rw [Catalog.readBytes, Xml.readBytes, read]
  exact listed

end Catalog

end ScriptSite
