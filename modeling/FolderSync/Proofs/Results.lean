import Mathlib.Data.List.Forall2

/-!
# Steps that can fail

When steps that can fail are put together, there is a result just if each of them has one
(`bind_eq_ok_iff`, `mapM_eq_ok_iff`), and two of them look the same just if they fail alike or what they
give looks the same (`map_eq_map_iff`).
-/

namespace FolderSync

theorem bind_eq_ok_iff {x : Except ε α} {f : α → Except ε β} {b : β} :
    x >>= f = .ok b ↔ ∃ a, x = .ok a ∧ f a = .ok b := by
  cases x with
  | error fault => exact ⟨fun h => (nomatch h), fun ⟨_, h, _⟩ => (nomatch h)⟩
  | ok a =>
    constructor
    · exact fun h => ⟨a, rfl, h⟩
    · rintro ⟨a', h, hf⟩
      cases h
      exact hf

theorem map_eq_ok_iff {x : Except ε α} {f : α → β} {b : β} :
    x.map f = .ok b ↔ ∃ a, x = .ok a ∧ f a = b := by
  cases x <;> simp [Except.map]

/-- Two results look the same just if both steps fail alike, or both give something that looks the
same. -/
theorem map_eq_map_iff {x : Except ε α} {y : Except ε β} {f : α → γ} {g : β → γ} : x.map f = y.map g ↔
    (∃ fault, x = .error fault ∧ y = .error fault) ∨ ∃ a b, x = .ok a ∧ y = .ok b ∧ f a = g b := by
  cases x <;> cases y <;> simp [Except.map, eq_comm]

theorem map_map_congr {x : Except ε α} {f g : α → β} {view : β → γ} (h : ∀ a, view (f a) = view (g a)) :
    (x.map f).map view = (x.map g).map view := by
  cases x with
  | error fault => rfl
  | ok a => exact congrArg Except.ok (h a)

theorem mapError_eq_ok_iff {x : Except ε α} {f : ε → δ} {a : α} : x.mapError f = .ok a ↔ x = .ok a := by
  cases x <;> simp [Except.mapError]

theorem map_mapError {x : Except ε α} {f : ε → δ} {g : α → β} :
    (x.mapError f).map g = (x.map g).mapError f := by
  cases x <;> rfl

/-- A list is gone through just if every member is. -/
theorem mapM_eq_ok_iff {f : α → Except ε β} {l : List α} {results : List β} :
    l.mapM f = .ok results ↔ List.Forall₂ (fun a b => f a = .ok b) l results := by
  induction l generalizing results with
  | nil =>
    rw [List.mapM_nil, List.forall₂_nil_left_iff]
    exact ⟨fun h => (Except.ok.inj h).symm, fun h => h ▸ rfl⟩
  | cons a l ih =>
    rw [List.mapM_cons, List.forall₂_cons_left_iff]
    simp only [bind_eq_ok_iff, ih]
    constructor
    · rintro ⟨b, hb, bs, hbs, h⟩
      exact ⟨b, bs, hb, hbs, (Except.ok.inj h).symm⟩
    · rintro ⟨b, bs, hb, hbs, rfl⟩
      exact ⟨b, hb, bs, hbs, rfl⟩

end FolderSync
