import ScriptSite.Xml.Fault

/-!
# Namespaces

Names with a colon have a prefix that stands for the address of a namespace. The full name of an
element or attribute has the address in braces in front of the local part. Attributes that begin
with `xmlns` bind prefixes, or the empty prefix, which stands for the namespace of elements whose
names have none.
-/

namespace ScriptSite.Xml

/-- The addresses that prefixes are bound to, the innermost binding first. -/
abbrev Bindings := List (Text × Text)

namespace Bindings

/-- The prefix that is bound from the start. -/
def xmlLabel : Text :=
  "xml".toList

/-- The prefix of the attributes that bind prefixes. -/
def bindingLabel : Text :=
  "xmlns".toList

/-- The namespace of the prefix `xml`. -/
def xmlAddress : Text :=
  "http://www.w3.org/XML/1998/namespace".toList

/-- The namespace of the attributes that bind prefixes. -/
def bindingAddress : Text :=
  "http://www.w3.org/2000/xmlns/".toList

/-- The bindings outside of all elements. -/
def initial : Bindings :=
  [(xmlLabel, xmlAddress)]

/-- The parts of a name before and after its colon. -/
def split? (name : Text) : Option (Text × Text) :=
  Text.splitFirst? [':'] name

/-- The prefix that an attribute with this name binds, if it is such an attribute. -/
def bound? (name : Text) : Option Text :=
  if name = bindingLabel then some []
  else
    match split? name with
    | some (label, rest) => if label = bindingLabel then some rest else none
    | none => none

/-- The bindings with one more. A prefix cannot be bound to nothing, the two reserved prefixes and
their namespaces belong together, and an address holds no brace. -/
def bind (bindings : Bindings) (label address : Text) : Except Fault Bindings :=
  if address.isEmpty ∧ !label.isEmpty then .error .undeclaredPrefix
  else if label = bindingLabel then .error .reservedDeclarationPrefix
  else if address.contains '\x7d' then .error .misplaced
  else if label = xmlLabel ∧ address ≠ xmlAddress then .error .reservedPrefix
  else if label ≠ xmlLabel ∧ (address = xmlAddress ∨ address = bindingAddress) then
    .error .reservedNamespace
  else .ok ((label, address) :: bindings)

/-- A local part with the address of its namespace. -/
def fullName (address localPart : Text) : Text :=
  '\x7b' :: address ++ '\x7d' :: localPart

def elementName (bindings : Bindings) (name : Text) : Except Fault Text :=
  match split? name with
  | some (label, localPart) =>
    match bindings.lookup label with
    | some address => .ok (fullName address localPart)
    | none => .error .unboundPrefix
  | none =>
    match bindings.lookup [] with
    | none | some [] => .ok name
    | some address => .ok (fullName address name)

/-- The full name of an attribute. One without a prefix is in no namespace. -/
def attributeName (bindings : Bindings) (name : Text) : Except Fault Text :=
  match split? name with
  | some (label, localPart) =>
    match bindings.lookup label with
    | some address => .ok (fullName address localPart)
    | none => .error .unboundPrefix
  | none => .ok name

end Bindings

end ScriptSite.Xml
