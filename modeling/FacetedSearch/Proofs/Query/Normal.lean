import FacetedSearch.Proofs.Query.Rendering
import FacetedSearch.Proofs.Query.Subtree

/-!
# Normal forms of queries

Rendering forgets the node around a query without a filter, and the minimum of `should` clauses
where there are none. The normal form of a tree forgets these too, and is rendered as the tree is.
-/

namespace FacetedSearch.Query

mutual

/-- The tree without the nodes around a query that has no filter, and with the default minimum where
there are no `should` clauses. -/
def normal : Query → Query
  | leaf field c l => leaf field c l
  | bool must should mustNot minimum l =>
    bool (normals must) (normals should) (normals mustNot)
      (if should.isEmpty then defaultMinimumShouldMatch else minimum) l
  | nested path q mode l => nested path (normal q) mode l
  | filtered none none l => filtered none none l
  | filtered (some q) none _ => normal q
  | filtered none (some f) l => filtered none (some (normal f)) l
  | filtered (some q) (some f) l => filtered (some (normal q)) (some (normal f)) l

def normals : List Query → List Query
  | [] => []
  | q :: rest => normal q :: normals rest

end

theorem normals_eq_map (qs : List Query) : normals qs = qs.map normal := by
  induction qs with
  | nil => simp only [normals, List.map_nil]
  | cons q qs ih => simp only [normals, ih, List.map_cons]

theorem wire_normal (q : Query) : q.normal.wire = q.wire := by
  induction q using induction_children with
  | step q ih =>
      have hlist : ∀ qs : List Query, (∀ c ∈ qs, c.normal.wire = c.wire) →
          (qs.map normal).map wire = qs.map wire := by
        intro qs hqs
        rw [List.map_map]
        exact List.map_congr_left hqs
      cases q with
      | leaf _ _ _ => simp only [normal]
      | bool must should mustNot minimum l =>
          simp only [children, List.forall_mem_append] at ih
          simp only [normal, wire, wires_eq_map, normals_eq_map, hlist must ih.1.1,
            hlist should ih.1.2, hlist mustNot ih.2]
          cases should <;> simp
      | nested _ q _ _ =>
          simp only [normal, wire, ih q (by simp [children])]
      | filtered q f _ =>
          cases q <;> cases f <;> simp_all [children, normal, wire]

end FacetedSearch.Query
