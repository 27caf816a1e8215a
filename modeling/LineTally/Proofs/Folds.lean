/-!
# Folds whose steps may fail

Items are worked off one after the other, each by a step that goes on from the state that the one
before it has left.  If a step fails, the whole fails.  Whether failures are told apart does not
matter to what the steps keep: the library says for each kind of computation what it can return.
-/

namespace LineTally

open MonadAttach

instance exceptAttach {ε : Type} : MonadAttach (Except ε) :=
  inferInstanceAs (MonadAttach (ExceptT ε Id))

instance exceptLawfulAttach {ε : Type} : LawfulMonadAttach (Except ε) :=
  inferInstanceAs (LawfulMonadAttach (ExceptT ε Id))

/-- What steps keep holds after all of them. -/
theorem kept_of_foldlM {m : Type → Type} [Monad m] [LawfulMonad m] [MonadAttach m]
    [LawfulMonadAttach m] {State Item : Type} {step : State → Item → m State}
    {Kept : State → Prop} {items : List Item}
    (keeps : ∀ item ∈ items, ∀ state next, Kept state → CanReturn (step state item) next →
      Kept next) :
    ∀ {first last : State}, Kept first → CanReturn (items.foldlM step first) last →
      Kept last := by
  induction items with
  | nil =>
      intro first last kept ran
      exact LawfulMonadAttach.eq_of_canReturn_pure ran ▸ kept
  | cons item items ih =>
      intro first last kept ran
      rcases LawfulMonadAttach.canReturn_bind_imp' ran with ⟨next, stepped, ran⟩
      exact ih (fun other among => keeps other (List.mem_cons_of_mem _ among))
        (keeps item List.mem_cons_self first next kept stepped) ran

section Failures

variable {State Item ε : Type} {step : State → Item → Except ε State} {item : Item}
variable {items : List Item}

theorem foldlM_cons_eq_ok {first last : State} :
    (item :: items).foldlM step first = .ok last ↔
      ∃ next, step first item = .ok next ∧ items.foldlM step next = .ok last := by
  rw [List.foldlM_cons]
  cases step first item with
  | error error => exact ⟨nofun, nofun⟩
  | ok next =>
      refine ⟨fun ran => ⟨next, rfl, ran⟩, ?_⟩
      rintro ⟨_, same, ran⟩
      cases same
      exact ran

/-- If no step fails, wherever it is taken, all of them can be taken. -/
theorem ok_of_foldlM (each : ∀ item ∈ items, ∀ state, ∃ next, step state item = .ok next) :
    ∀ first, ∃ last, items.foldlM step first = .ok last := by
  induction items with
  | nil => exact fun first => ⟨first, rfl⟩
  | cons item items ih =>
      intro first
      rcases each item List.mem_cons_self first with ⟨next, stepped⟩
      rcases ih (fun other among => each other (List.mem_cons_of_mem _ among)) next
        with ⟨last, ran⟩
      exact ⟨last, foldlM_cons_eq_ok.mpr ⟨next, stepped, ran⟩⟩

/-- If all steps were taken, each has been. -/
theorem step_of_foldlM : ∀ {first last : State}, items.foldlM step first = .ok last →
    ∀ item ∈ items, ∃ state next, step state item = .ok next := by
  induction items with
  | nil => exact nofun
  | cons item items ih =>
      intro first last ran
      rcases foldlM_cons_eq_ok.mp ran with ⟨next, stepped, ran⟩
      exact List.forall_mem_cons.mpr ⟨⟨first, next, stepped⟩, ih ran⟩

end Failures

end LineTally
