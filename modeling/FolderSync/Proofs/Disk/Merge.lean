import FolderSync.Disk.Basic
import Mathlib.Tactic.Common

/-!
# Merged disks

Several changes of one disk that do not get in each other's way can be put together: what one of them
changes is as it leaves it, and what none of them changes is as it was (`Disk.Merged`).  The parts
settle the whole, in whatever order they come (`Merged.same`).

* `Disk.Carries`: one more part is put on top of those that are already there (`Merged.cons`).
-/

namespace FolderSync.Disk

/-- The disk `whole` is `start` with the changes of all parts. -/
structure Merged (start : Disk) (parts : List Disk) (whole : Disk) : Prop where
  here : whole.here = start.here
  closed : whole.closed = start.closed
  changed : ∀ part ∈ parts, ∀ l, part.find? l ≠ start.find? l → whole.find? l = part.find? l
  kept : ∀ l, (∀ part ∈ parts, part.find? l = start.find? l) → whole.find? l = start.find? l

/-- The disk `after` is `before` with the changes that `part` makes to `start`: a location is as the
part leaves it, where nothing but the part has been, or the part has nothing to do with it. -/
structure Carries (start part before after : Disk) : Prop where
  here : after.here = before.here
  closed : after.closed = before.closed
  moves : ∀ l, (after.find? l = part.find? l ∧
      (before.find? l = start.find? l ∨ before.find? l = part.find? l)) ∨
    (part.find? l = start.find? l ∧ after.find? l = before.find? l)

variable {start part before after d e : Disk} {parts others : List Disk}

theorem Merged.nil (start : Disk) : start.Merged [] start :=
  ⟨rfl, rfl, fun _ h => (by cases h), fun _ _ => rfl⟩

/-- What the part changes is as it leaves it. -/
theorem Carries.changed (h : start.Carries part before after) {l : Location}
    (hl : part.find? l ≠ start.find? l) : after.find? l = part.find? l := by
  rcases h.moves l with ⟨hpart, -⟩ | ⟨hsame, -⟩
  · exact hpart
  · exact absurd hsame hl

/-- What the part does not change is as before. -/
theorem Carries.kept (h : start.Carries part before after) {l : Location}
    (hl : part.find? l = start.find? l) : after.find? l = before.find? l := by
  rcases h.moves l with ⟨hpart, hbefore | hbefore⟩ | ⟨-, hkept⟩
  · rw [hpart, hl, hbefore]
  · rw [hpart, hbefore]
  · exact hkept

/-- What had changed before stays. -/
theorem Carries.stays (h : start.Carries part before after) {l : Location}
    (hl : before.find? l ≠ start.find? l) : after.find? l = before.find? l := by
  rcases h.moves l with ⟨hpart, hbefore | hbefore⟩ | ⟨-, hkept⟩
  · exact absurd hbefore hl
  · rw [hpart, hbefore]
  · exact hkept

/-- One part more. -/
theorem Merged.cons (h : start.Merged parts before) (g : start.Carries part before after) :
    start.Merged (part :: parts) after := by
  refine ⟨g.here.trans h.here, g.closed.trans h.closed, fun other hother l hl => ?_, fun l hl => ?_⟩
  · rcases List.mem_cons.1 hother with rfl | hother
    · exact g.changed hl
    · have hbefore := h.changed other hother l hl
      rw [g.stays (hbefore ▸ hl), hbefore]
  · rw [g.kept (hl part List.mem_cons_self)]
    exact h.kept l fun other hother => hl other (List.mem_cons_of_mem _ hother)

/-- **The same parts make the same whole, in whatever order.** -/
theorem Merged.same (h : start.Merged parts d) (g : start.Merged others e)
    (hparts : ∀ part, part ∈ parts ↔ part ∈ others) : d.Same e := by
  refine ⟨h.here.trans g.here.symm, fun l => ?_, h.closed.trans g.closed.symm⟩
  by_cases hall : ∀ part ∈ parts, part.find? l = start.find? l
  · rw [h.kept l hall, g.kept l fun part hpart => hall part ((hparts part).2 hpart)]
  · push Not at hall
    obtain ⟨part, hpart, hl⟩ := hall
    rw [h.changed part hpart l hl, g.changed part ((hparts part).1 hpart) l hl]

end FolderSync.Disk
