import ScriptSite.Text.Basic

/-!
# Catalog entries

A catalog lists what a site has to show, in the order in which it is shown.
-/

namespace ScriptSite

/-- One line of a catalog: the short name that addresses are made of, the name that readers see, and
a description. A demo has no tag, which is then empty. -/
structure CatalogEntry where
  tag : Text
  name : Text
  description : Text
  deriving DecidableEq, Repr

end ScriptSite
