import EntityQuery.Model.Declared
/-!
# Sample models

Declarations in short, for members and entity types of the common kinds, and two small models that
statements about all models are shown on.

Results:
* `build_shapes`, `build_staff`: the sample declarations are accepted.
-/
namespace EntityQuery

/-- A field without annotations. -/
def Member.plain (name type : String) : Member := ⟨name, .field, ⟨type, []⟩, false, false, []⟩

/-- A field that is an association with one entity. -/
def Member.toOne (name type : String) : Member :=
  ⟨name, .field, ⟨type, []⟩, false, false, [⟨"ManyToOne", []⟩]⟩

/-- A field that is an association with many entities. -/
def Member.toMany (name type : String) : Member :=
  ⟨name, .field, ⟨"List", [type]⟩, false, false, [⟨"OneToMany", []⟩]⟩

/-- An entity type with the default name. -/
def Declaration.entity (name : String) (superclass : Option String) (members : List Member) :
    Declaration := ⟨name, superclass, [⟨"Entity", []⟩], members⟩

/-- The type of a declaration. -/
def Declaration.below (d : Declaration) (superclass : Option TypeId) : TypeInfo :=
  ⟨d.name, superclass, d.annotations, d.members⟩

/-- Entity types without members, two of them below a third. -/
def shapes : List Declaration :=
  [.entity "Circle" (some "Shape") [], .entity "Shape" none [], .entity "Square" (some "Shape") []]

def shapesModel : Declared where
  types := List.zipWith Declaration.below shapes [some 1, none, some 1]
  byName := [("Square", 2), ("Shape", 1), ("Circle", 0)]
  bySimpleName := [("Square", 2), ("Shape", 1), ("Circle", 0)]

theorem build_shapes : Declared.build shapes = .ok shapesModel := rfl

/-- An entity type with persons as boss and as reports, and two below it that have numbers of
different types. -/
def staff : List Declaration :=
  [.entity "Person" none
      [.plain "name" "String", .toOne "boss" "Person", .toMany "reports" "Person"],
    .entity "Employee" (some "Person") [.plain "number" "String"],
    .entity "Contractor" (some "Person") [.plain "number" "int"]]

def staffModel : Declared where
  types := List.zipWith Declaration.below staff [none, some 0, some 0]
  byName := [("Contractor", 2), ("Employee", 1), ("Person", 0)]
  bySimpleName := [("Contractor", 2), ("Employee", 1), ("Person", 0)]

theorem build_staff : Declared.build staff = .ok staffModel := rfl

end EntityQuery
