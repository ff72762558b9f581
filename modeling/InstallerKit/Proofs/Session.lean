import InstallerKit.Session

/-!
# What a run of an action tells

An action that ends well has done all of its steps well. These lemmas take such a run
apart, and put a run together from the runs of its steps.
-/

namespace InstallerKit.Action

variable {α β : Type} {σ σ' : Session}

theorem bind_eq_ok_iff {x : Action α} {f : α → Action β} {b : β} :
    (x >>= f) σ = .ok b σ' ↔ ∃ a σ₁, x σ = .ok a σ₁ ∧ f a σ₁ = .ok b σ' := by
  simp only [bind, EStateM.bind]
  cases x σ with
  | ok a σ₁ =>
    constructor
    · exact fun h => ⟨a, σ₁, rfl, h⟩
    · rintro ⟨a, σ₁, ⟨⟩, h⟩
      exact h
  | error e σ₁ => simp

theorem bind_eq_error_iff {x : Action α} {f : α → Action β} {e : Fault} :
    (x >>= f) σ = .error e σ' ↔
      x σ = .error e σ' ∨ ∃ a σ₁, x σ = .ok a σ₁ ∧ f a σ₁ = .error e σ' := by
  simp only [bind, EStateM.bind]
  cases x σ with
  | ok a σ₁ =>
    constructor
    · exact fun h => .inr ⟨a, σ₁, rfl, h⟩
    · rintro (h | ⟨a, σ₁, ⟨⟩, h⟩)
      · cases h
      · exact h
  | error e σ₁ => simp

theorem pure_eq_ok_iff {a b : α} : (pure a : Action α) σ = .ok b σ' ↔ a = b ∧ σ = σ' := by
  simp [pure, EStateM.pure]

theorem throw_ne_ok {f : Fault} {b : α} : (throw f : Action α) σ ≠ .ok b σ' := by
  intro h
  cases h

theorem bind_of_ok {x : Action α} {a : α} (h : x σ = .ok a σ') (f : α → Action β) :
    (x >>= f) σ = f a σ' := by
  simp only [bind, EStateM.bind, h]

theorem bind_of_error {x : Action α} {e : Fault} (h : x σ = .error e σ') (f : α → Action β) :
    (x >>= f) σ = .error e σ' := by
  simp only [bind, EStateM.bind, h]

/-- What comes next does not care how the session came about. -/
theorem bind_of_eq {x y : Action α} {τ : Session} (h : x σ = y τ) (f : α → Action β) :
    (x >>= f) σ = (y >>= f) τ := by
  simp only [bind, EStateM.bind, h]

theorem tryCatch_of_ok {x : Action α} {a : α} (h : x σ = .ok a σ') (handler : Fault → Action α) :
    tryCatch x handler σ = .ok a σ' := by
  change EStateM.tryCatch x handler σ = _
  delta EStateM.tryCatch
  rw [h]

/-- What has changed before a failure stays. -/
theorem tryCatch_of_error {x : Action α} {e : Fault} (h : x σ = .error e σ')
    (handler : Fault → Action α) : tryCatch x handler σ = handler e σ' := by
  change EStateM.tryCatch x handler σ = _
  delta EStateM.tryCatch
  rw [h]
  rfl

/-- Asking the file system changes nothing. -/
theorem ask_of_ok {question : FileSystem → Except FileSystem.Error α} {a : α}
    (h : question σ.files = .ok a) : ask question σ = .ok a σ := by
  refine (bind_of_ok (show (get : Action Session) σ = .ok σ σ from rfl) _).trans ?_
  rw [h]
  rfl

theorem ask_of_error {question : FileSystem → Except FileSystem.Error α} {e : FileSystem.Error}
    (h : question σ.files = .error e) : ask question σ = .error (.of (.file e)) σ := by
  refine (bind_of_ok (show (get : Action Session) σ = .ok σ σ from rfl) _).trans ?_
  rw [h]
  rfl

/-- A change of the files changes nothing else. -/
theorem change_of_ok {f : FileSystem → Except FileSystem.Error FileSystem} {files : FileSystem}
    (h : f σ.files = .ok files) : change f σ = .ok () { σ with files } :=
  bind_of_ok (ask_of_ok h) _

end InstallerKit.Action
