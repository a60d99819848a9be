import SourceReport.Diagnostic

namespace SourceReport.Diagnostic
variable {κ : Type}

mutual

/-- A diagnostic and all its causes, each before its own causes. -/
def nodes : Diagnostic κ → List (Diagnostic κ)
  | ⟨kind, title, details, suggestions, version, excerpts, causes⟩ =>
    ⟨kind, title, details, suggestions, version, excerpts, causes⟩ :: nodesAll causes

def nodesAll : List (Diagnostic κ) → List (Diagnostic κ)
  | [] => []
  | d :: ds => d.nodes ++ nodesAll ds

end

def allExcerpts (d : Diagnostic κ) : List Excerpt := d.nodes.flatMap (·.excerpts)

mutual

theorem toOwned_toOwned : ∀ d : Diagnostic κ, d.toOwned.toOwned = d.toOwned
  | ⟨_, _, _, _, _, excerpts, causes⟩ => by
    rw [toOwned, toOwned, toOwnedAll_toOwnedAll causes, List.map_map]
    rfl

theorem toOwnedAll_toOwnedAll :
    ∀ ds : List (Diagnostic κ), toOwnedAll (toOwnedAll ds) = toOwnedAll ds
  | [] => rfl
  | d :: ds => by
    rw [toOwnedAll, toOwnedAll, toOwned_toOwned d, toOwnedAll_toOwnedAll ds]

end

theorem excerpts_toOwned (d : Diagnostic κ) :
    d.toOwned.excerpts = d.excerpts.map Excerpt.toOwned := by
  cases d
  rfl

mutual

theorem nodes_toOwned : ∀ d : Diagnostic κ, d.toOwned.nodes = d.nodes.map toOwned
  | ⟨_, _, _, _, _, _, causes⟩ => by
    rw [toOwned, nodes, nodes, List.map_cons, toOwned, nodesAll_toOwnedAll causes]

theorem nodesAll_toOwnedAll :
    ∀ ds : List (Diagnostic κ), nodesAll (toOwnedAll ds) = (nodesAll ds).map toOwned
  | [] => rfl
  | d :: ds => by
    rw [toOwnedAll, nodesAll, nodesAll, List.map_append, nodes_toOwned d, nodesAll_toOwnedAll ds]

end

theorem allExcerpts_toOwned (d : Diagnostic κ) :
    d.toOwned.allExcerpts = d.allExcerpts.map Excerpt.toOwned := by
  rw [allExcerpts, allExcerpts, nodes_toOwned, List.flatMap_map, List.map_flatMap]
  exact congrArg (d.nodes.flatMap ·) (funext excerpts_toOwned)

end SourceReport.Diagnostic
