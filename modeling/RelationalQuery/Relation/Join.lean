import RelationalQuery.Relation.Repository
import RelationalQuery.Sql.Tree

/-!
# Joins along a relation

Main definitions:

- `Relation.join` is the condition under which two rows are related.
-/

namespace RelationalQuery

/-- The source column of the related row equals the target column of this row; `inner` is the scope
of the related row and `outer` that of this one. -/
def Relation.join (relation : Relation) (inner outer : String) : Sql.Condition :=
  .equal (.column (.qualified inner relation.sourceColumn))
    (.column (.qualified outer relation.targetColumn))

end RelationalQuery
