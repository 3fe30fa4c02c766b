import EnvTemplate.Failure
/-! Results whose errors get reported, among the ways in which a run ends. -/
namespace EnvTemplate

variable {α β : Type}

@[simp]
theorem reported_ok (result : α) : reported (.ok result) = .ok result := rfl

@[simp]
theorem reported_error (e : ResolveError) :
    reported (.error e : Except ResolveError α) = .error (.reported e) := rfl

theorem reported_bind (result : Except ResolveError α) (next : α → Except ResolveError β) :
    reported (result >>= next) = reported result >>= fun a => reported (next a) := by
  cases result <;> rfl

end EnvTemplate
