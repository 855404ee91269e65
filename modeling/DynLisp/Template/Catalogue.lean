import DynLisp.Template.Catalogue.Kinds
import DynLisp.Template.Catalogue.Numbers
import DynLisp.Template.Catalogue.Operations
import DynLisp.Template.Catalogue.Rows
import DynLisp.Template.Catalogue.Texts

/-!
# Catalogues

The catalogue of a kind lists its features.  A kind has the features of the kinds that it belongs to
as well, unless it has one of the same name itself.
-/

namespace DynLisp
namespace Template
namespace Kind

/-- The features that a kind has itself, in order. -/
def features : Kind → List Feature
  | texts => Catalogue.texts
  | numbers => Catalogue.numbers
  | truths => Catalogue.truths
  | rows => Catalogue.rows
  | tables => Catalogue.tables
  | nothing => Catalogue.nothing
  | things => Catalogue.things
  | kinds => Catalogue.kinds
  | keyedKinds => Catalogue.keyedKinds
  | catalogues => Catalogue.catalogues
  | methods => Catalogue.methods
  | slots => Catalogue.slots
  | kindMethods => Catalogue.kindMethods
  | boundMethods => Catalogue.boundMethods
  | boundSlots => Catalogue.boundSlots
  | statics => Catalogue.statics
  | computedParts => Catalogue.computedParts
  | storedParts => Catalogue.storedParts

/-- The feature of that name that a kind has itself. -/
def own? (kind : Kind) (name : String) : Option Feature :=
  kind.features.find? fun feature => feature.name = name

/-- The feature of that name that a kind has, and the kind that it comes from. -/
def find? (kind : Kind) (name : String) : Option (Kind × Feature) :=
  kind.lineage.findSome? fun owner => (owner.own? name).map (owner, ·)

end Kind
end Template
end DynLisp
