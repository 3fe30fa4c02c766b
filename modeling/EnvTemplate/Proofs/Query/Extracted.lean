import EnvTemplate.Proofs.Failure
import EnvTemplate.Proofs.Url.Percent
import EnvTemplate.Proofs.Url.Port
import EnvTemplate.Resolve
import EnvTemplate.Tables
/-! Queries that have been taken out of their URL. The query of a URL is decoded as it stands there. Taken
out, it is a text of its own, of which a query is sought once more: it is its own query unless it is itself
a URL or a question mark stands in it. -/
namespace EnvTemplate

/-! ### The query of a URL -/

namespace Url

variable {scheme text front rest : List Char} {url : Url}

/-- A query in a text: what stands behind a question mark, up to a number sign, and encoded. -/
def IsQuery (text query : List Char) : Prop :=
  ∃ (special : Bool) (rest : List Char), '?' :: rest <:+ text ∧
    query = percentEncode (inQuerySet special) (rest.takeWhile (· != '#'))

theorem IsQuery.of_suffix {query : List Char} (within : IsQuery rest query) (behind : rest <:+ text) :
    IsQuery text query := by
  obtain ⟨special, after, shorter, encoded⟩ := within
  exact ⟨special, after, shorter.trans behind, encoded⟩

theorem IsQuery.notMem {query : List Char} (isQuery : IsQuery text query) : '#' ∉ query := by
  obtain ⟨special, rest, _, rfl⟩ := isQuery
  refine notMem_percentEncode (by decide) fun member => ?_
  exact absurd (List.mem_takeWhile_imp member) (by decide)

end Url

/-! ### The query of a query -/

namespace Query

end Query

/-! ### The two routes -/

namespace World

end World

end EnvTemplate
