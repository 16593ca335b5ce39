import Stockroom.Query.Statement

/-!
# Results of lowering

A lowering ends with a result or a fault, and leaves bindings behind.  What it
yields is taken apart along its steps; each step has one result at most.
-/

namespace Stockroom

namespace Lowering

/-- The result or the fault, and the bindings that are left behind. -/
def answer {α : Type} (run : Lowering α) (before : Bindings) : Except QueryFault α × Bindings :=
  ExceptT.run run before

def Yields {α : Type} (run : Lowering α) (before : Bindings) (result : α)
    (after : Bindings) : Prop :=
  run.answer before = (.ok result, after)

def Fails {α : Type} (run : Lowering α) (before : Bindings) (fault : QueryFault)
    (after : Bindings) : Prop :=
  run.answer before = (.error fault, after)

variable {α β : Type} {before after : Bindings}

theorem Yields.unique {run : Lowering α} {a b : α} {after' : Bindings}
    (ha : run.Yields before a after) (hb : run.Yields before b after') :
    a = b ∧ after = after' := by
  have same := ha.symm.trans hb
  injection same with result bindings
  exact ⟨Except.ok.inj result, bindings⟩

@[simp] theorem yields_pure {a b : α} :
    Yields (pure a) before b after ↔ a = b ∧ before = after := by
  constructor
  · intro h
    cases h
    exact ⟨rfl, rfl⟩
  · rintro ⟨rfl, rfl⟩
    rfl

theorem answer_bind (run : Lowering α) (next : α → Lowering β) (before : Bindings) :
    answer (run >>= next) before =
      match run.answer before with
      | (.ok a, between) => (next a).answer between
      | (.error fault, between) => (.error fault, between) := by
  unfold answer ExceptT.run
  simp only [Bind.bind, ExceptT.bind, ExceptT.mk, StateT.bind]
  cases run before with
  | mk result between => cases result <;> rfl

@[simp] theorem yields_bind {run : Lowering α} {next : α → Lowering β} {b : β} :
    Yields (run >>= next) before b after ↔
      ∃ a between, Yields run before a between ∧ Yields (next a) between b after := by
  simp only [Yields, answer_bind]
  cases run.answer before with
  | mk result between => cases result <;> simp [and_assoc]

/-- A fault comes from the first step, or from what follows its result. -/
theorem fails_bind {run : Lowering α} {next : α → Lowering β} {fault : QueryFault} :
    Fails (run >>= next) before fault after ↔
      Fails run before fault after ∨
        ∃ a between, Yields run before a between ∧ Fails (next a) between fault after := by
  simp only [Fails, Yields, answer_bind]
  cases run.answer before with
  | mk result between => cases result <;> simp [and_assoc]

theorem Fails.bind {run : Lowering α} {fault : QueryFault} (h : run.Fails before fault after)
    (next : α → Lowering β) : Fails (run >>= next) before fault after :=
  fails_bind.mpr (.inl h)

theorem Yields.bind_fails {run : Lowering α} {next : α → Lowering β} {a : α} {between : Bindings}
    {fault : QueryFault} (h : run.Yields before a between)
    (hnext : (next a).Fails between fault after) : Fails (run >>= next) before fault after :=
  fails_bind.mpr (.inr ⟨a, between, h, hnext⟩)

@[simp] theorem yields_get {bindings : Bindings} :
    Yields get before bindings after ↔ before = bindings ∧ before = after := by
  constructor
  · intro h
    cases h
    exact ⟨rfl, rfl⟩
  · rintro ⟨rfl, rfl⟩
    rfl

@[simp] theorem yields_modify {f : Bindings → Bindings} {u : Unit} :
    Yields (modify f) before u after ↔ f before = after := by
  constructor
  · intro h
    cases h
    rfl
  · rintro rfl
    rfl

@[simp] theorem yields_lift {result : Except QueryFault α} {a : α} :
    Yields (liftM result) before a after ↔ result = .ok a ∧ before = after := by
  constructor
  · intro h
    cases h
    exact ⟨rfl, rfl⟩
  · rintro ⟨rfl, rfl⟩
    rfl

section Checks

variable {ε : Type} {result : Except ε α}

theorem yields_mapError {a : α} (h : result = .ok a) (wrap : ε → QueryFault)
    (before : Bindings) : Yields (liftM (result.mapError wrap)) before a before := by
  rw [h]
  rfl

theorem fails_mapError {cause : ε} (h : result = .error cause) (wrap : ε → QueryFault)
    (before : Bindings) : Fails (liftM (result.mapError wrap)) before (wrap cause) before := by
  rw [h]
  rfl

end Checks

theorem yields_bindValue {value : Value} {slot : Nat} :
    Yields (Lowering.bind value) before slot after ↔
      before.params.length + 1 = slot ∧ before.push value = after := by
  simp only [Lowering.bind, yields_bind, yields_modify, yields_get, yields_pure]
  constructor
  · rintro ⟨-, between, rfl, -, -, ⟨rfl, rfl⟩, rfl, rfl⟩
    simp [Bindings.push]
  · rintro ⟨rfl, rfl⟩
    exact ⟨(), _, rfl, _, _, ⟨rfl, rfl⟩, by simp [Bindings.push], rfl⟩

theorem yields_column {catalog : Catalog} {field : String} {column : Column}
    (h : Yields (Lowering.column catalog field) before column after) :
    column = catalog.resolve field ∧ after.params = before.params := by
  unfold Lowering.column at h
  rw [Catalog.resolve]
  split at h
  next found hfound =>
    obtain ⟨rfl, rfl⟩ := yields_pure.mp h
    simp [hfound]
  next hfound =>
    obtain ⟨u, between, hmodify, hpure⟩ := yields_bind.mp h
    obtain ⟨rfl, rfl⟩ := yields_pure.mp hpure
    rw [← yields_modify.mp hmodify]
    simp [hfound, Bindings.note]

theorem exists_yields_column (catalog : Catalog) (field : String) (before : Bindings) :
    ∃ after, Yields (Lowering.column catalog field) before (catalog.resolve field) after := by
  unfold Lowering.column
  rw [Catalog.resolve]
  split
  next found hfound => exact ⟨before, by simp [hfound]⟩
  next hfound => exact ⟨_, by simp [hfound]; rfl⟩

end Lowering

end Stockroom
