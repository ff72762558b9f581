import InstallerKit.Proofs.FileSystem.Saving
import InstallerKit.Proofs.Session

/-!
# What actions do to files

Of a session an action asks for nothing but the files. So what it does to them if it ends
well, and when it ends well, is said by a relation between the files before, the answer, and
the files afterwards: its *effect*. The effect of an action is put together from those of its
steps, whatever they log and note on the way.

* `HasEffect`: an action has an effect;
* `hasEffect_bind`: the effect of two actions, one after the other;
* `FailsCleanly`, `Refuses`: what is left of an action that fails.
-/

namespace InstallerKit

/-! ### Results -/

section Results

variable {ε ε' α β : Type}

theorem mapError_eq_ok_iff {x : Except ε α} {f : ε → ε'} {a : α} :
    x.mapError f = .ok a ↔ x = .ok a := by
  cases x <;> simp

theorem except_map_eq_ok_iff {x : Except ε α} {f : α → β} {b : β} :
    x.map f = .ok b ↔ ∃ a, x = .ok a ∧ f a = b := by
  cases x <;> simp [Except.map]

theorem toOption_eq_some_iff {x : Except ε α} {a : α} : x.toOption = some a ↔ x = .ok a := by
  cases x <;> simp [Except.toOption]

end Results

namespace Action

variable {α β : Type}

/-! ### Actions that end well -/

/-- An action ends well exactly where a relation between the files, its answer and the files
    afterwards says so. -/
def HasEffect (x : Action α) (r : FileSystem → α → FileSystem → Prop) : Prop :=
  ∀ σ a files, (∃ σ', x σ = .ok a σ' ∧ σ'.files = files) ↔ r σ.files a files

section

variable {x : Action α} {r r' : FileSystem → α → FileSystem → Prop}

theorem HasEffect.of_ok (h : HasEffect x r) {σ σ' : Session} {a : α} (hx : x σ = .ok a σ') :
    r σ.files a σ'.files :=
  (h σ a σ'.files).1 ⟨σ', hx, rfl⟩

theorem HasEffect.exists_ok (h : HasEffect x r) {σ : Session} {a : α} {files : FileSystem}
    (hr : r σ.files a files) : ∃ σ', x σ = .ok a σ' ∧ σ'.files = files :=
  (h σ a files).2 hr

theorem HasEffect.congr (h : HasEffect x r) (hr : ∀ fs a fs', r fs a fs' ↔ r' fs a fs') :
    HasEffect x r' :=
  fun σ a files => (h σ a files).trans (hr σ.files a files)

theorem hasEffect_bind {f : α → Action β} {s : α → FileSystem → β → FileSystem → Prop}
    (h : HasEffect x r) (hf : ∀ a, HasEffect (f a) (s a)) :
    HasEffect (x >>= f) fun fs b fs' => ∃ a made, r fs a made ∧ s a made b fs' := by
  intro σ b files
  constructor
  · rintro ⟨σ', hx, hfiles⟩
    obtain ⟨a, σ₁, hx, hrest⟩ := bind_eq_ok_iff.1 hx
    exact ⟨a, σ₁.files, h.of_ok hx, (hf a σ₁ b files).1 ⟨σ', hrest, hfiles⟩⟩
  · rintro ⟨a, made, hr, hs⟩
    obtain ⟨σ₁, hx, rfl⟩ := h.exists_ok hr
    obtain ⟨σ', hrest, hfiles⟩ := (hf a).exists_ok hs
    exact ⟨σ', (bind_of_ok hx f).trans hrest, hfiles⟩

/-- What comes after an answer that may be missing depends on whether it is. -/
theorem hasEffect_bind_option {x : Action (Option α)}
    {r : FileSystem → Option α → FileSystem → Prop} {f : Option α → Action β}
    {s : FileSystem → β → FileSystem → Prop} {t : α → FileSystem → β → FileSystem → Prop}
    (h : HasEffect x r) (hnone : HasEffect (f none) s) (hsome : ∀ a, HasEffect (f (some a)) (t a)) :
    HasEffect (x >>= f) fun fs b fs' =>
      (∃ made, r fs none made ∧ s made b fs') ∨ ∃ a made, r fs (some a) made ∧ t a made b fs' := by
  have hf (o : Option α) : HasEffect (f o) (o.elim s t) := by
    cases o with
    | none => exact hnone
    | some a => exact hsome a
  refine (hasEffect_bind h hf).congr fun fs b fs' => ?_
  simp only [Option.exists, Option.elim]

/-- What comes after a yes may be something else than after a no. -/
theorem hasEffect_bind_bool {x : Action Bool} {r : FileSystem → Bool → FileSystem → Prop}
    {f : Bool → Action β} {s t : FileSystem → β → FileSystem → Prop}
    (h : HasEffect x r) (hno : HasEffect (f false) s) (hyes : HasEffect (f true) t) :
    HasEffect (x >>= f) fun fs b fs' =>
      (∃ made, r fs false made ∧ s made b fs') ∨ ∃ made, r fs true made ∧ t made b fs' := by
  have hf (answer : Bool) : HasEffect (f answer) (cond answer t s) := by
    cases answer with
    | false => exact hno
    | true => exact hyes
  refine (hasEffect_bind h hf).congr fun fs b fs' => ?_
  simp only [Bool.exists_bool, cond]

end

theorem hasEffect_pure (a : α) :
    HasEffect (pure a) fun fs b fs' => a = b ∧ fs = fs' := by
  intro σ b files
  constructor
  · rintro ⟨σ', h, rfl⟩
    obtain ⟨rfl, rfl⟩ := pure_eq_ok_iff.1 h
    exact ⟨rfl, rfl⟩
  · rintro ⟨rfl, rfl⟩
    exact ⟨σ, rfl, rfl⟩

theorem hasEffect_throw (f : Fault) :
    HasEffect (throw f : Action α) fun _ _ _ => False :=
  fun _ _ _ => ⟨fun ⟨_, h, _⟩ => throw_ne_ok h, False.elim⟩

/-- What only tells something does nothing to the files. -/
theorem hasEffect_modify {f : Session → Session} (hf : ∀ σ, (f σ).files = σ.files) :
    HasEffect (modify f) fun fs _ fs' => fs = fs' := by
  intro σ _ files
  constructor
  · rintro ⟨σ', ⟨⟩, rfl⟩
    exact (hf σ).symm
  · rintro rfl
    exact ⟨f σ, rfl, hf σ⟩

theorem hasEffect_log (level : Level) (text : String) :
    HasEffect (log level text) fun fs _ fs' => fs = fs' :=
  hasEffect_modify fun _ => rfl

theorem hasEffect_note (e : Event) : HasEffect (note e) fun fs _ fs' => fs = fs' :=
  hasEffect_modify fun _ => rfl

theorem hasEffect_lift {ε : Type} (toProblem : ε → Problem) (result : Except ε α) :
    HasEffect (lift toProblem result) fun fs a fs' => result = .ok a ∧ fs = fs' := by
  cases result with
  | ok a => exact (hasEffect_pure a).congr fun _ _ _ => by simp
  | error e => exact (hasEffect_throw (.of (toProblem e))).congr fun _ _ _ => by simp

theorem hasEffect_ask (question : FileSystem → Except FileSystem.Error α) :
    HasEffect (ask question) fun fs a fs' => question fs = .ok a ∧ fs = fs' :=
  fun σ => hasEffect_lift .file (question σ.files) σ

theorem hasEffect_change (f : FileSystem → Except FileSystem.Error FileSystem) :
    HasEffect (change f) fun fs _ fs' => f fs = .ok fs' := by
  intro σ _ files
  constructor
  · rintro ⟨σ', h, rfl⟩
    obtain ⟨changed, σ₁, hask, h⟩ := bind_eq_ok_iff.1 h
    obtain ⟨hf, -⟩ := (hasEffect_ask f).of_ok hask
    cases h
    exact hf
  · intro hf
    exact ⟨_, bind_of_ok (ask_of_ok hf) _, rfl⟩

theorem makeDirectories_of_none {p : Path} {σ : Session} {files : FileSystem}
    (h : σ.files.makeDirectories p = (files, none)) :
    makeDirectories p σ = .ok () { σ with files } := by
  refine (bind_of_ok (show (get : Action Session) σ = .ok σ σ from rfl) _).trans ?_
  rw [h]
  rfl

theorem makeDirectories_of_some {p : Path} {σ : Session} {files : FileSystem}
    {f : FileSystem.Failure} (h : σ.files.makeDirectories p = (files, some f)) :
    makeDirectories p σ = .error (.ofFailure f) { σ with files } := by
  refine (bind_of_ok (show (get : Action Session) σ = .ok σ σ from rfl) _).trans ?_
  rw [h]
  rfl

theorem hasEffect_makeDirectories (p : Path) :
    HasEffect (makeDirectories p) fun fs _ fs' => fs.makeDirectories p = (fs', none) := by
  intro σ _ files
  match h : σ.files.makeDirectories p with
  | (made, none) =>
    rw [makeDirectories_of_none h]
    constructor
    · rintro ⟨σ', ⟨⟩, rfl⟩
      exact h
    · intro hmade
      exact ⟨_, rfl, (Prod.mk.inj (h.symm.trans hmade)).1⟩
  | (made, some f) =>
    rw [makeDirectories_of_some h]
    constructor
    · rintro ⟨σ', ⟨⟩, -⟩
    · intro hmade
      cases (Prod.mk.inj (h.symm.trans hmade)).2

/-! ### Actions that fail -/

/-- An action that fails has added directories at most. -/
def FailsCleanly (x : Action α) : Prop :=
  ∀ σ f σ', x σ = .error f σ' → σ.files.AddsDirectories σ'.files

theorem failsCleanly_bind {x : Action α} {f : α → Action β}
    {r : FileSystem → α → FileSystem → Prop} (hx : FailsCleanly x) (h : HasEffect x r)
    (hr : ∀ fs a fs', r fs a fs' → fs.AddsDirectories fs') (hf : ∀ a, FailsCleanly (f a)) :
    FailsCleanly (x >>= f) := by
  intro σ e σ' he
  rcases bind_eq_error_iff.1 he with he | ⟨a, σ₁, ha, he⟩
  · exact hx σ e σ' he
  · exact (hr _ _ _ (h.of_ok ha)).trans (hf a σ₁ e σ' he)

theorem failsCleanly_bind_pure {x : Action α} (hx : FailsCleanly x) (g : α → β) :
    FailsCleanly (x >>= fun a => pure (g a)) := by
  intro σ e σ' he
  rcases bind_eq_error_iff.1 he with he | ⟨a, σ₁, -, ⟨⟩⟩
  exact hx σ e σ' he

theorem failsCleanly_pure (a : α) : FailsCleanly (pure a) := by
  rintro σ f σ' ⟨⟩

theorem failsCleanly_modify (f : Session → Session) : FailsCleanly (modify f) := by
  rintro σ e σ' ⟨⟩

theorem failsCleanly_throw (f : Fault) : FailsCleanly (throw f : Action α) := by
  rintro σ e σ' ⟨⟩
  exact .refl σ.files

theorem failsCleanly_lift {ε : Type} (toProblem : ε → Problem) (result : Except ε α) :
    FailsCleanly (lift toProblem result) := by
  cases result with
  | ok a => exact failsCleanly_pure a
  | error e => exact failsCleanly_throw _

theorem failsCleanly_ask (question : FileSystem → Except FileSystem.Error α) :
    FailsCleanly (ask question) :=
  fun σ => failsCleanly_lift .file (question σ.files) σ

theorem failsCleanly_change (f : FileSystem → Except FileSystem.Error FileSystem) :
    FailsCleanly (change f) := by
  intro σ e σ' h
  rcases bind_eq_error_iff.1 h with h | ⟨a, σ₁, -, ⟨⟩⟩
  exact failsCleanly_ask f σ e σ' h

theorem failsCleanly_makeDirectories (p : Path) : FailsCleanly (makeDirectories p) := by
  intro σ e σ' h
  match hmade : σ.files.makeDirectories p with
  | (made, none) =>
    rw [makeDirectories_of_none hmade] at h
    cases h
  | (made, some f) =>
    rw [makeDirectories_of_some hmade] at h
    cases h
    exact FileSystem.addsDirectories_makeDirectories hmade

/-- On some files an action fails with a fault, and leaves the files as they are. -/
def Refuses (x : Action α) (fs : FileSystem) (f : Fault) : Prop :=
  ∀ σ, σ.files = fs → ∃ σ', x σ = .error f σ' ∧ σ'.files = fs

section Refuses

variable {fs : FileSystem} {f : Fault} {x : Action α} {g : α → Action β}

theorem refuses_throw (fs : FileSystem) (f : Fault) : Refuses (throw f : Action α) fs f :=
  fun σ hσ => ⟨σ, rfl, hσ⟩

theorem refuses_lift {ε : Type} (fs : FileSystem) (toProblem : ε → Problem) {e : ε}
    {result : Except ε α} (h : result = .error e) :
    Refuses (lift toProblem result) fs (.of (toProblem e)) := by
  subst h
  exact refuses_throw fs _

theorem refuses_ask (question : FileSystem → Except FileSystem.Error α) {e : FileSystem.Error}
    (h : question fs = .error e) : Refuses (ask question) fs (.of (.file e)) :=
  fun σ hσ => ⟨σ, ask_of_error (hσ ▸ h), hσ⟩

theorem Refuses.bind (h : Refuses x fs f) (g : α → Action β) : Refuses (x >>= g) fs f := by
  intro σ hσ
  obtain ⟨σ', hx, hfiles⟩ := h σ hσ
  exact ⟨σ', bind_of_error hx g, hfiles⟩

/-- What refuses may come after something that leaves the files as they are. -/
theorem refuses_bind {r : FileSystem → α → FileSystem → Prop} {a : α} (hx : HasEffect x r)
    (hr : r fs a fs) (h : Refuses (g a) fs f) : Refuses (x >>= g) fs f := by
  rintro σ rfl
  obtain ⟨σ₁, hx, hfiles⟩ := hx.exists_ok hr
  obtain ⟨σ', hg, hfiles'⟩ := h σ₁ hfiles
  exact ⟨σ', (bind_of_ok hx g).trans hg, hfiles'⟩

end Refuses

end Action

end InstallerKit
