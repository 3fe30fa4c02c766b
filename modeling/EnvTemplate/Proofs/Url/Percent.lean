import EnvTemplate.Proofs.Codec.Form
import EnvTemplate.Url.Percent
/-! Percent-encoding. It adds percent signs and hexadecimal digits, and every other character that comes
out has gone in. -/
namespace EnvTemplate.Url

variable {inSet : Char → Bool} {text : List Char} {c : Char}

theorem notMem_escapes (other : c ≠ '%' ∧ Form.isPlain c = false) (d : Char) :
    c ∉ (Utf8.encodeChar d).flatMap Form.escape := by
  intro member
  obtain ⟨b, _, inside⟩ := List.mem_flatMap.mp member
  obtain percent | plain := Form.isPlain_of_mem_escape inside
  · exact other.1 percent
  · exact Bool.eq_false_iff.mp other.2 plain

theorem notMem_percentEncode (other : c ≠ '%' ∧ Form.isPlain c = false) (absent : c ∉ text) :
    c ∉ percentEncode inSet text := by
  intro member
  obtain ⟨d, present, inside⟩ := List.mem_flatMap.mp member
  split at inside
  · exact notMem_escapes other d inside
  · exact absent (List.mem_singleton.mp inside ▸ present)

theorem percentEncode_eq_self (plain : ∀ c ∈ text, inSet c = false) :
    percentEncode inSet text = text := by
  have kept : ∀ c ∈ text,
      (if inSet c then (Utf8.encodeChar c).flatMap Form.escape else [c]) = [c] :=
    fun c member => if_neg (Bool.eq_false_iff.mp (plain c member))
  rw [percentEncode, List.flatMap_congr kept, List.flatMap_singleton']

end EnvTemplate.Url
