import Formula.Tree
import Mathlib.Data.List.Induction

/-!
# Variables in the order of their first occurrences

The variables of a tree are the names in it without those that stand further to
the left as well.  So a search for a variable from the left may go through all
the names: a repeated name is never the first one that is found.
-/

namespace Formula

/-- The names of a list that do not occur before the place where they stand. -/
def firstOccurrences (names : List String) : List String :=
  (names.zipIdx.filter fun marked => marked.1 ∉ names.take marked.2).map (·.1)

theorem firstOccurrences_concat (names : List String) (last : String) :
    firstOccurrences (names ++ [last]) =
      firstOccurrences names ++ if last ∈ names then [] else [last] := by
  have before : ∀ marked ∈ names.zipIdx,
      (names ++ [last]).take marked.2 = names.take marked.2 := by
    intro marked member
    have within : marked.2 < names.length := List.snd_lt_of_mem_zipIdx member
    exact List.take_append_of_le_length (Nat.le_of_lt within)
  have kept :
      (names.zipIdx.filter fun marked =>
          marked.1 ∉ (names ++ [last]).take marked.2) =
        names.zipIdx.filter fun marked => marked.1 ∉ names.take marked.2 := by
    apply List.filter_congr
    intro marked member
    rw [before marked member]
  rw [firstOccurrences, List.zipIdx_append, List.filter_append, kept,
    List.map_append, firstOccurrences]
  by_cases repeated : last ∈ names
  · simp [repeated]
  · simp [repeated]

theorem eraseDups_concat (names : List String) (last : String) :
    (names ++ [last]).eraseDups =
      names.eraseDups ++ if last ∈ names then [] else [last] := by
  rw [List.eraseDups_append]
  by_cases repeated : last ∈ names
  · simp [List.removeAll, repeated]
  · simp [List.removeAll, repeated, List.eraseDups_cons]

namespace Tree

theorem variableNames_eq_firstOccurrences (tree : Tree) :
    tree.variableNames = firstOccurrences tree.names := by
  rw [variableNames]
  induction tree.names using List.reverseRecOn with
  | nil => rfl
  | append_singleton names last inductionHypothesis =>
      rw [eraseDups_concat, firstOccurrences_concat, inductionHypothesis]

/-- The first variable with a property is the first name with it. -/
theorem find?_variableNames (property : String → Bool) (tree : Tree) :
    tree.variableNames.find? property = tree.names.find? property := by
  rw [variableNames]
  induction tree.names using List.reverseRecOn with
  | nil => rfl
  | append_singleton names last inductionHypothesis =>
      rw [eraseDups_concat, List.find?_append, List.find?_append,
        inductionHypothesis]
      by_cases repeated : last ∈ names
      · rw [if_pos repeated]
        -- A name that was met before is found there or not at all.
        by_cases holds : property last = true
        · have found : (names.find? property).isSome = true :=
            List.find?_isSome.mpr ⟨last, repeated, holds⟩
          obtain ⟨first, earlier⟩ := Option.isSome_iff_exists.mp found
          rw [earlier]
          rfl
        · simp [holds]
      · rw [if_neg repeated]

end Tree

end Formula
