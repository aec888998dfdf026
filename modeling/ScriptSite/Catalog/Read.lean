import ScriptSite.Catalog.Entry
import ScriptSite.Text.Quoted
import ScriptSite.Xml.Document

/-!
# Reading catalogs

A catalog is an XML document with the root element `root`. Each element with the wanted name
directly inside the root gives an entry: its name and its tag are attributes, and its description is
the text before its first child. Every entry has a name, and every example has a tag.
-/

namespace ScriptSite

/-- Why a document is no catalog. -/
inductive CatalogFault
  /-- The document cannot be read as XML. -/
  | notXml (diagnosis : Xml.Diagnosis)
  /-- The root element has another name. -/
  | wrongRoot (name : Text)
  /-- An entry has no name. -/
  | unnamed (element : Text)
  /-- An example has no tag. -/
  | untagged (name : Text)
  deriving DecidableEq, Repr

def CatalogFault.message : CatalogFault → Text
  | .notXml diagnosis => diagnosis.message
  | .wrongRoot name => "expected <root>, found <".toList ++ name ++ ['>']
  | .unnamed element => '<' :: element ++ "> without a name attribute".toList
  | .untagged name =>
    "<example name=".toList ++ Text.quoted name ++ "> without a tag attribute".toList

namespace Catalog

/-- The name of the elements that need a tag. -/
def exampleElement : Text :=
  "example".toList

/-- The name of the elements that list demos. -/
def demoElement : Text :=
  "demo".toList

/-- The text before the first element. -/
def leadingText : List Xml.Node → Text
  | .text text :: rest => text ++ leadingText rest
  | _ => []

def entry (element : Text) (attributes : List (Text × Text)) (children : List Xml.Node) :
    Except CatalogFault CatalogEntry :=
  let tag := (attributes.lookup "tag".toList).getD []
  match attributes.lookup "name".toList with
  | none => .error (.unnamed element)
  | some name =>
    if element = exampleElement ∧ tag.isEmpty then .error (.untagged name)
    else .ok { tag, name, description := leadingText children }

/-- The entry that a node stands for, if it is an element with the wanted name. -/
def entryOfNode (element : Text) : Xml.Node → Except CatalogFault (Option CatalogEntry)
  | .element name attributes children =>
    if name = element then (entry element attributes children).map some else .ok none
  | .text _ => .ok none

/-- The entries among nodes, in their order. -/
def nodeEntries (element : Text) (nodes : List Xml.Node) :
    Except CatalogFault (List CatalogEntry) := do
  let entries ← nodes.mapM (entryOfNode element)
  return entries.filterMap id

def entriesOfRoot (element : Text) : Xml.Node → Except CatalogFault (List CatalogEntry)
  | .element name _ children =>
    if name = "root".toList then nodeEntries element children else .error (.wrongRoot name)
  | .text _ => .ok []

/-- The entries of a document that has been read. -/
def entriesOf (element : Text) (document : Except Xml.Diagnosis Xml.Node) :
    Except CatalogFault (List CatalogEntry) :=
  match document with
  | .error diagnosis => .error (.notXml diagnosis)
  | .ok root => entriesOfRoot element root

def readBytes (element : Text) (bytes : Bytes) : Except CatalogFault (List CatalogEntry) :=
  entriesOf element (Xml.readBytes bytes)

def readText (element text : Text) : Except CatalogFault (List CatalogEntry) :=
  entriesOf element (Xml.readText text)

end Catalog

end ScriptSite
