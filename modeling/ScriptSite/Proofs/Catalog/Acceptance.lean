import ScriptSite.Proofs.Catalog.Listing
import ScriptSite.Proofs.Xml.Root
import ScriptSite.Site.Failure

/-!
# Which catalogs are accepted

What is read from a document depends on the name of its root and on the elements with the wanted
name directly inside of it (`wanted`). Each of these has to be complete: it has a name, and an
example has a tag that is not empty. Then each gives an entry, in their order; otherwise the first
one that is not complete decides why the document is no catalog (`decides_of_reads`).
-/

namespace ScriptSite

open Xml

namespace Catalog

structure Child where
  attributes : List (Text × Text)
  inside : List Node

/-- The elements with the wanted name among nodes. -/
def wanted (element : Text) : List Node → List Child
  | [] => []
  | .text _ :: nodes => wanted element nodes
  | .element name attributes inside :: nodes =>
    if name = element then ⟨attributes, inside⟩ :: wanted element nodes else wanted element nodes

variable {element name : Text} {child : Child} {children : List Child} {nodes others : List Node}
  {entry : CatalogEntry} {entries : List CatalogEntry} {fault : CatalogFault} {root : Node}
  {outcome : Except CatalogFault (List CatalogEntry)}

/-- Whether a text is the text before the first element among nodes. -/
def IsLeading (nodes : List Node) (text : Text) : Prop :=
  ∃ (texts : List Text) (rest : List Node), nodes = texts.map Node.text ++ rest ∧
    (∀ other, rest.head? ≠ some (.text other)) ∧ text = texts.flatten

namespace Child

def name? (child : Child) : Option Text :=
  child.attributes.lookup "name".toList

def tag? (child : Child) : Option Text :=
  child.attributes.lookup "tag".toList

def read (element : Text) (child : Child) : Except CatalogFault CatalogEntry :=
  Catalog.entry element child.attributes child.inside

/-- Whether an element has all that an entry needs. -/
structure IsComplete (element : Text) (child : Child) : Prop where
  named : ∃ name, child.name? = some name
  tagged : element = exampleElement → ∃ tag, child.tag? = some tag ∧ tag ≠ []

/-- What an element lacks. Its name is missed first. -/
inductive Lacks (element : Text) (child : Child) : CatalogFault → Prop
  | name (unnamed : child.name? = none) : Lacks element child (.unnamed element)
  | tag {name : Text} (isExample : element = exampleElement) (named : child.name? = some name)
      (untagged : ∀ tag, child.tag? = some tag → tag = []) : Lacks element child (.untagged name)

/-- Whether an entry is the one that an element stands for. -/
structure Gives (child : Child) (entry : CatalogEntry) : Prop where
  named : child.name? = some entry.name
  tagged : child.tag?.getD [] = entry.tag
  describes : IsLeading child.inside entry.description

end Child

/-- The outcome of reading a document with this root, given as a text or as bytes. -/
inductive Reads (element : Text) (root : Node) : Except CatalogFault (List CatalogEntry) → Prop
  | text {text : Text} (parsed : Xml.readText text = .ok root) :
      Reads element root (readText element text)
  | bytes {bytes : Bytes} (parsed : Xml.readBytes bytes = .ok root) :
      Reads element root (readBytes element bytes)

theorem isLeading_iff {text : Text} : IsLeading nodes text ↔ text = leadingText nodes := by
  constructor
  · rintro ⟨texts, rest, rfl, stops, rfl⟩
    induction texts with
    | nil =>
        rcases rest with _ | ⟨_ | _, rest⟩
        · rfl
        · exact absurd rfl (stops _)
        · rfl
    | cons text texts ih => simp [leadingText, ih]
  · rintro rfl
    induction nodes with
    | nil => exact ⟨[], [], rfl, by simp, rfl⟩
    | cons node nodes ih =>
        cases node with
        | element name attributes inside =>
            exact ⟨[], .element name attributes inside :: nodes, rfl, by simp, rfl⟩
        | text text =>
            rcases ih with ⟨texts, rest, rfl, stops, same⟩
            refine ⟨text :: texts, rest, rfl, stops, ?_⟩
            rw [leadingText, same, List.flatten_cons]

namespace Child

theorem Lacks.not_isComplete (lacks : child.Lacks element fault) : ¬child.IsComplete element := by
  intro isComplete
  cases lacks with
  | name unnamed =>
      rcases isComplete.named with ⟨name, named⟩
      simp [unnamed] at named
  | tag isExample _ untagged =>
      rcases isComplete.tagged isExample with ⟨tag, tagged, nonempty⟩
      exact nonempty (untagged tag tagged)

theorem Lacks.unique {other : CatalogFault} (lacks : child.Lacks element fault)
    (also : child.Lacks element other) : fault = other := by
  cases lacks with
  | name unnamed =>
      cases also with
      | name => rfl
      | tag _ named => simp [unnamed] at named
  | tag _ named _ =>
      cases also with
      | name unnamed => simp [unnamed] at named
      | tag _ alsoNamed _ => simpa [named] using alsoNamed

theorem read_cases (element : Text) (child : Child) :
    (∃ fault, child.Lacks element fault ∧ child.read element = .error fault) ∨
      child.IsComplete element ∧ ∃ entry, child.Gives entry ∧ child.read element = .ok entry := by
  cases named : child.name? with
  | none =>
      refine Or.inl ⟨_, .name named, ?_⟩
      rw [name?] at named
      simp only [read, Catalog.entry, named]
  | some name =>
      have isRead : child.read element =
          if element = exampleElement ∧ (child.tag?.getD []).isEmpty then .error (.untagged name)
          else .ok ⟨child.tag?.getD [], name, leadingText child.inside⟩ := by
        rw [name?] at named
        simp only [read, Catalog.entry, named]
        rfl
      by_cases lacking : element = exampleElement ∧ (child.tag?.getD []).isEmpty
      · refine Or.inl ⟨_, .tag lacking.1 named ?_, by rw [isRead, if_pos lacking]⟩
        intro tag tagged
        simpa [tagged] using lacking.2
      · refine Or.inr ⟨⟨⟨name, named⟩, ?_⟩, ⟨child.tag?.getD [], name, leadingText child.inside⟩,
          ⟨named, rfl, isLeading_iff.mpr rfl⟩, by rw [isRead, if_neg lacking]⟩
        intro isExample
        cases tagged : child.tag? with
        | none => simp [isExample, tagged] at lacking
        | some tag => exact ⟨tag, rfl, by simpa [isExample, tagged] using lacking⟩

theorem read_eq_error_iff : child.read element = .error fault ↔ child.Lacks element fault := by
  rcases read_cases element child with ⟨found, lacks, read⟩ | ⟨isComplete, entry, _, read⟩
  · rw [read, Except.error.injEq]
    constructor
    · rintro rfl
      exact lacks
    · intro also
      exact lacks.unique also
  · rw [read]
    constructor
    · intro failed
      cases failed
    · intro lacks
      exact absurd isComplete lacks.not_isComplete

theorem exists_read_eq_ok_iff :
    (∃ entry, child.read element = .ok entry) ↔ child.IsComplete element := by
  rcases read_cases element child with ⟨fault, lacks, read⟩ | ⟨isComplete, entry, _, read⟩
  · simp [read, lacks.not_isComplete]
  · simp [read, isComplete]

theorem gives_of_read_eq_ok (read : child.read element = .ok entry) : child.Gives entry := by
  rcases read_cases element child with ⟨fault, _, failed⟩ | ⟨_, other, gives, done⟩
  · simp [failed] at read
  · rw [done, Except.ok.injEq] at read
    exact read ▸ gives

end Child

theorem mapM_eq_ok_iff {α β ε : Type} {f : α → Except ε β} {items : List α} {results : List β} :
    items.mapM f = .ok results ↔
      List.Forall₂ (fun item result => f item = .ok result) items results := by
  induction items generalizing results with
  | nil => simp [pure, Except.pure, eq_comm]
  | cons item items ih =>
      rw [List.mapM_cons]
      constructor
      · intro done
        rcases exists_of_bind_eq_ok done with ⟨result, first, done⟩
        rcases exists_of_bind_eq_ok done with ⟨later, rest, done⟩
        cases done
        exact .cons first (ih.mp rest)
      · intro each
        rcases List.forall₂_cons_left_iff.mp each with ⟨result, later, first, rest, rfl⟩
        simp [first, ih.mpr rest, bind, Except.bind, pure, Except.pure]

/-- The first item that fails decides. -/
theorem mapM_eq_error_iff {α β ε : Type} {f : α → Except ε β} {items : List α} {fault : ε} :
    items.mapM f = .error fault ↔ ∃ before item after, items = before ++ item :: after ∧
      f item = .error fault ∧ ∀ earlier ∈ before, ∃ result, f earlier = .ok result := by
  induction items with
  | nil => simp [pure, Except.pure]
  | cons item items ih =>
      rw [List.mapM_cons]
      cases first : f item with
      | error other =>
          constructor
          · intro failed
            cases failed
            exact ⟨[], item, items, rfl, first, by simp⟩
          · rintro ⟨_ | ⟨head, before⟩, found, after, split, failed, earlier⟩
            · cases split
              rw [first] at failed
              cases failed
              rfl
            · cases split
              rcases earlier _ List.mem_cons_self with ⟨result, read⟩
              simp [first] at read
      | ok result =>
          have later : (items.mapM f = .error fault) ↔
              (Except.ok result >>= fun y => do return y :: (← items.mapM f)) =
                Except.error fault := by
            cases items.mapM f <;> simp [bind, Except.bind, pure, Except.pure]
          rw [← later, ih]
          constructor
          · rintro ⟨before, found, after, rfl, failed, earlier⟩
            refine ⟨item :: before, found, after, rfl, failed, ?_⟩
            exact List.forall_mem_cons.mpr ⟨⟨result, first⟩, earlier⟩
          · rintro ⟨_ | ⟨head, before⟩, found, after, split, failed, earlier⟩
            · cases split
              simp [first] at failed
            · cases split
              exact ⟨before, found, after, rfl, failed, (List.forall_mem_cons.mp earlier).2⟩

theorem nodeEntries_cons (element : Text) (node : Node) (nodes : List Node) :
    nodeEntries element (node :: nodes) = do
      let found ← entryOfNode element node
      let later ← nodeEntries element nodes
      return found.toList ++ later := by
  rw [nodeEntries, nodeEntries, List.mapM_cons]
  cases entryOfNode element node with
  | error fault => rfl
  | ok found => cases nodes.mapM (entryOfNode element) <;> cases found <;> rfl

/-- Only the elements with the wanted name count. -/
theorem nodeEntries_eq_mapM (element : Text) (nodes : List Node) :
    nodeEntries element nodes = (wanted element nodes).mapM (Child.read element) := by
  induction nodes with
  | nil => rfl
  | cons node nodes ih =>
      rw [nodeEntries_cons, ih]
      cases node with
      | text text =>
          rw [wanted]
          cases (wanted element nodes).mapM (Child.read element) <;> rfl
      | element name attributes inside =>
          rw [wanted, entryOfNode]
          split
          · rw [List.mapM_cons, Child.read]
            cases Catalog.entry element attributes inside with
            | error fault => rfl
            | ok entry => cases (wanted element nodes).mapM (Child.read element) <;> rfl
          · cases (wanted element nodes).mapM (Child.read element) <;> rfl

/-- Whether a fault is the first that elements have. -/
def IsFirstLack (element : Text) (children : List Child) (fault : CatalogFault) : Prop :=
  ∃ before child after, children = before ++ child :: after ∧ child.Lacks element fault ∧
    ∀ earlier ∈ before, earlier.IsComplete element

/-- What an outcome has to be for a root with this name and these elements with the wanted name. -/
structure Decides (element name : Text) (children : List Child)
    (outcome : Except CatalogFault (List CatalogEntry)) : Prop where
  accepted_iff : (∃ entries, outcome = .ok entries) ↔
    name = rootName ∧ ∀ child ∈ children, child.IsComplete element
  gives : ∀ entries, outcome = .ok entries → List.Forall₂ Child.Gives children entries
  rejected_iff : ∀ fault, outcome = .error fault ↔
    name ≠ rootName ∧ fault = .wrongRoot name ∨ name = rootName ∧ IsFirstLack element children fault
  reported : ∀ fault path, outcome = .error fault →
    Failure.ofCatalog path fault = .reported (.malformedCatalog path fault)

theorem forall_isComplete_iff :
    (∀ child ∈ children, child.IsComplete element) ↔
      ∃ entries, children.mapM (Child.read element) = .ok entries := by
  induction children with
  | nil => simp [pure, Except.pure]
  | cons child children ih =>
      rw [List.forall_mem_cons, ih, ← Child.exists_read_eq_ok_iff, List.mapM_cons]
      cases child.read element with
      | error fault => simp [bind, Except.bind]
      | ok entry =>
          cases children.mapM (Child.read element) <;> simp [bind, Except.bind, pure, Except.pure]

theorem ofCatalog_of_isFirstLack (first : IsFirstLack element children fault) (path : Text) :
    Failure.ofCatalog path fault = .reported (.malformedCatalog path fault) := by
  rcases first with ⟨_, _, _, _, lacks, _⟩
  cases lacks <;> rfl

theorem decides_mapM (element : Text) (children : List Child) :
    Decides element rootName children (children.mapM (Child.read element)) := by
  have rejected_iff : ∀ fault, children.mapM (Child.read element) = .error fault ↔
      IsFirstLack element children fault := by
    intro fault
    simp only [mapM_eq_error_iff, Child.read_eq_error_iff, Child.exists_read_eq_ok_iff,
      IsFirstLack]
  refine ⟨?_, ?_, ?_, ?_⟩
  · simp [forall_isComplete_iff]
  · intro entries read
    apply (mapM_eq_ok_iff.mp read).imp
    intro child entry isRead
    exact Child.gives_of_read_eq_ok isRead
  · simp [rejected_iff]
  · intro fault path failed
    exact ofCatalog_of_isFirstLack ((rejected_iff fault).mp failed) path

theorem decides_wrongRoot (element : Text) (children : List Child) (other : name ≠ rootName) :
    Decides element name children (.error (.wrongRoot name)) where
  accepted_iff := by simp [other]
  gives := by simp
  rejected_iff := by simp [other, eq_comm]
  reported := by
    intro fault path failed
    cases failed
    rfl

theorem entriesOfRoot_eq (element name : Text) (attributes : List (Text × Text))
    (nodes : List Node) :
    entriesOfRoot element (.element name attributes nodes) =
      if name = rootName then (wanted element nodes).mapM (Child.read element)
      else .error (.wrongRoot name) := by
  rw [entriesOfRoot, nodeEntries_eq_mapM]
  rfl

theorem Reads.eq_entriesOfRoot (reads : Reads element root outcome) :
    outcome = entriesOfRoot element root := by
  cases reads with
  | text parsed => rw [readText, parsed, entriesOf]
  | bytes parsed => rw [readBytes, parsed, entriesOf]

theorem Reads.isElement (reads : Reads element root outcome) : root.IsElement := by
  cases reads with
  | text parsed => exact isElement_of_readDocument parsed
  | bytes parsed => exact isElement_of_readDocument parsed

/-- What is read from a document is decided by the name of its root and by the elements with the
wanted name directly inside of it. -/
theorem decides_of_reads (reads : Reads element root outcome) :
    ∃ name attributes nodes, root = .element name attributes nodes ∧
      Decides element name (wanted element nodes) outcome ∧
      ∀ otherAttributes others other,
        Reads element (.element name otherAttributes others) other →
          wanted element others = wanted element nodes → other = outcome := by
  rcases reads.isElement with ⟨name, attributes, nodes, rfl⟩
  have same := reads.eq_entriesOfRoot
  rw [entriesOfRoot_eq] at same
  refine ⟨name, attributes, nodes, rfl, ?_, ?_⟩
  · by_cases isRoot : name = rootName
    · rw [same, if_pos isRoot, isRoot]
      exact decides_mapM element (wanted element nodes)
    · rw [same, if_neg isRoot]
      exact decides_wrongRoot element (wanted element nodes) isRoot
  · intro otherAttributes others other otherReads sameWanted
    rw [otherReads.eq_entriesOfRoot, entriesOfRoot_eq, same, sameWanted]

/-- A catalog with a good example, a demo, an example without a tag and one with nothing. -/
def mixedText : Text :=
  ("<root><example tag=\"t\" name=\"\">a<!-- -->b<b/>c</example><demo/>" ++
    "<example name=\"B\"/><example/></root>").toList

def mixedNodes : List Node :=
  [.element exampleElement [("tag".toList, ['t']), ("name".toList, [])]
      [.text ['a', 'b'], .element ['b'] [] [], .text ['c']],
    .element demoElement [] [], .element exampleElement [("name".toList, ['B'])] [],
    .element exampleElement [] []]

theorem readText_mixedText :
    Xml.readText mixedText = .ok (.element rootName [] mixedNodes) := by
  rfl

/-- The theorem about what decides, where the second example does. -/
theorem decides_mixedText :
    Reads exampleElement (.element rootName [] mixedNodes) (readText exampleElement mixedText) ∧
      readText exampleElement mixedText = .error (.untagged ['B']) ∧
      Failure.ofCatalog [] (.untagged ['B']) =
        .reported (.malformedCatalog [] (.untagged ['B'])) := by
  have reads : Reads exampleElement (.element rootName [] mixedNodes)
      (readText exampleElement mixedText) := .text readText_mixedText
  rcases decides_of_reads reads with ⟨name, attributes, nodes, same, decides, _⟩
  cases same
  have second : Child.Lacks exampleElement ⟨[("name".toList, ['B'])], []⟩ (.untagged ['B']) :=
    .tag rfl rfl (by simp [Child.tag?])
  have first : Child.IsComplete exampleElement
      ⟨[("tag".toList, ['t']), ("name".toList, [])],
        [.text ['a', 'b'], .element ['b'] [] [], .text ['c']]⟩ :=
    ⟨⟨[], rfl⟩, fun _ => ⟨['t'], rfl, by simp⟩⟩
  have failed : readText exampleElement mixedText = .error (.untagged ['B']) :=
    (decides.rejected_iff _).mpr
      (Or.inr ⟨rfl, [_], _, [_], rfl, second, List.forall_mem_singleton.mpr first⟩)
  exact ⟨reads, failed, decides.reported _ [] failed⟩

end Catalog

end ScriptSite
