import Mathlib.Data.List.Forall2
/-! Steps that may fail, taken apart: what a sequence or a list of them came to, if all went well. -/
namespace LeveledLogging

theorem returnOk {ε α β : Type} {x : Except ε α} {f : α → β} {b : β} :
    (do return f (← x) : Except ε β) = .ok b ↔ ∃ a, x = .ok a ∧ f a = b := by
  cases x with
  | error fault => simp [bind, Except.bind]
  | ok a => simp [bind, Except.bind, pure, Except.pure]

theorem bindOk {ε α β : Type} {x : Except ε α} {f : α → Except ε β} {b : β} :
    x >>= f = .ok b ↔ ∃ a, x = .ok a ∧ f a = .ok b := by
  cases x with
  | error fault => simp [bind, Except.bind]
  | ok a => simp [bind, Except.bind]

theorem succeeds {ε α : Type} {r : Except ε α} : r.toOption.isSome = true ↔ ∃ a, r = .ok a := by
  cases r with
  | error fault => simp [Except.toOption]
  | ok a => simp [Except.toOption]

theorem toOptionNone {ε α : Type} {r : Except ε α} :
    r.toOption = none ↔ ∃ fault, r = .error fault := by
  cases r <;> simp [Except.toOption]

theorem toOptionSome {ε α : Type} {r : Except ε α} {a : α} :
    r.toOption = some a ↔ r = .ok a := by
  cases r <;> simp [Except.toOption]

theorem mapMOk {ε α β : Type} {f : α → Except ε β} {xs : List α} {ys : List β} :
    xs.mapM f = .ok ys ↔ List.Forall₂ (fun x y => f x = .ok y) xs ys := by
  induction xs generalizing ys with
  | nil => cases ys <;> simp [pure, Except.pure]
  | cons x rest ih =>
    rw [List.mapM_cons, bindOk]
    cases ys with
    | nil =>
      constructor
      · rintro ⟨first, here, more⟩
        obtain ⟨later, done, same⟩ := returnOk.mp more
        contradiction
      · intro related
        contradiction
    | cons y others =>
      constructor
      · rintro ⟨first, here, more⟩
        obtain ⟨later, done, same⟩ := returnOk.mp more
        cases same
        exact .cons here (ih.mp done)
      · rintro (_ | ⟨here, done⟩)
        exact ⟨y, here, returnOk.mpr ⟨others, ih.mpr done, rfl⟩⟩

theorem mapMAppendOk {ε α β : Type} {f : α → Except ε β} {xs ys : List α} {results : List β} :
    (xs ++ ys).mapM f = .ok results ↔
      ∃ first second, xs.mapM f = .ok first ∧ ys.mapM f = .ok second ∧ first ++ second = results := by
  rw [List.mapM_append, bindOk]
  constructor
  · intro ⟨first, here, rest⟩
    obtain ⟨second, there, same⟩ := returnOk.mp rest
    exact ⟨first, second, here, there, same⟩
  · intro ⟨first, second, here, there, same⟩
    exact ⟨first, here, returnOk.mpr ⟨second, there, same⟩⟩

theorem foldKeeps {ε α β : Type} {f : β → α → Except ε β} (Kept : β → Prop) {xs : List α}
    (step : ∀ x ∈ xs, ∀ b next, Kept b → f b x = .ok next → Kept next) {start final : β}
    (first : Kept start) (done : xs.foldlM f start = .ok final) : Kept final := by
  induction xs generalizing start with
  | nil =>
    cases done
    exact first
  | cons x rest ih =>
    rw [List.foldlM_cons] at done
    obtain ⟨next, here, done⟩ := bindOk.mp done
    have others := fun y inside => step y (List.mem_cons_of_mem x inside)
    exact ih others (step x List.mem_cons_self start next first here) done

theorem relatedOrigin {α β : Type} {r : α → β → Prop} {xs : List α} {ys : List β}
    (related : List.Forall₂ r xs ys) : ∀ y ∈ ys, ∃ x ∈ xs, r x y := by
  induction related with
  | nil => simp
  | @cons x y rest others here _ ih =>
    intro z inside
    rcases List.mem_cons.mp inside with rfl | inside
    · exact ⟨x, List.mem_cons_self, here⟩
    · obtain ⟨origin, there, made⟩ := ih z inside
      exact ⟨origin, List.mem_cons_of_mem _ there, made⟩

theorem mapMTotal {ε α β : Type} {f : α → Except ε β} {xs : List α}
    (each : ∀ x ∈ xs, ∃ y, f x = .ok y) : ∃ ys, xs.mapM f = .ok ys := by
  simp only [mapMOk]
  induction xs with
  | nil => exact ⟨[], .nil⟩
  | cons x rest ih =>
    obtain ⟨y, here⟩ := each x List.mem_cons_self
    obtain ⟨ys, later⟩ := ih fun other inside => each other (List.mem_cons_of_mem _ inside)
    exact ⟨y :: ys, .cons here later⟩

inductive FirstFails {ε α β : Type} (f : α → Except ε β) (e : ε) : List α → Prop where
  | here {x rest} (failed : f x = .error e) : FirstFails f e (x :: rest)
  | later {x y rest} (done : f x = .ok y) (after : FirstFails f e rest) : FirstFails f e (x :: rest)

theorem FirstFails.notAll {ε α β : Type} {f : α → Except ε β} {e : ε} {xs : List α}
    (fails : FirstFails f e xs) : ¬ ∀ x ∈ xs, ∃ y, f x = .ok y := by
  intro all
  induction fails with
  | here failed =>
    obtain ⟨y, done⟩ := all _ List.mem_cons_self
    cases failed.symm.trans done
  | later _ _ ih => exact ih fun x inside => all x (List.mem_cons_of_mem _ inside)

theorem FirstFails.transfer {ε α β γ : Type} {f : α → Except ε β} {g : α → Except ε γ} {e : ε}
    {xs : List α} (failing : ∀ x, f x = .error e → g x = .error e)
    (passing : ∀ x y, f x = .ok y → ∃ z, g x = .ok z) (fails : FirstFails f e xs) :
    FirstFails g e xs := by
  induction fails with
  | here failed => exact .here (failing _ failed)
  | later done _ ih =>
    obtain ⟨z, also⟩ := passing _ _ done
    exact .later also ih

theorem mapMError {ε α β : Type} {f : α → Except ε β} {xs : List α} {e : ε} :
    xs.mapM f = .error e ↔ FirstFails f e xs := by
  induction xs with
  | nil =>
    constructor
    · intro failed
      cases failed
    · intro fails
      cases fails
  | cons x rest ih =>
    rw [List.mapM_cons]
    cases here : f x with
    | error fault =>
      constructor
      · intro failed
        cases failed
        exact .here here
      · rintro (failed | ⟨done, _⟩)
        · cases here.symm.trans failed
          rfl
        · cases here.symm.trans done
    | ok y =>
      have onward : (do return y :: (← rest.mapM f) : Except ε (List β)) = .error e ↔
          rest.mapM f = .error e := by
        cases rest.mapM f <;> simp [bind, Except.bind, pure, Except.pure]
      change (do return y :: (← rest.mapM f) : Except ε (List β)) = .error e ↔ _
      rw [onward, ih]
      constructor
      · exact .later here
      · rintro (failed | ⟨_, after⟩)
        · cases here.symm.trans failed
        · exact after

end LeveledLogging
