import FixTrial.Proofs.Batch

/-!
Workspaces with a note of the batches that they are handed. Nothing reads it: where it is left out
there is the same workspace.
-/
namespace FixTrial
open Act

/-- A world, and the batches that were handed over so far, to be put in or to be taken out. -/
structure Noted (ω : Type) where
  world : ω
  handed : List (List Fix)

namespace Noted
variable {ω α : Type} {P : List (List Fix) → Prop} {batch : List Fix}

/-- An action on the world alone. -/
def inside (act : Act ω α) : Act (Noted ω) α := fun x =>
  match act x.world with
  | .ok a world => .ok a { x with world }
  | .error e world => .error e { x with world }

/-- An action that is handed a batch. -/
def handing (batch : List Fix) (act : Act ω α) : Act (Noted ω) α := fun x =>
  inside act { x with handed := x.handed ++ [batch] }

/-- A note that has a property, and the world that it is kept of. -/
def Of (P : List (List Fix) → Prop) (x : Noted ω) (world : ω) : Prop :=
  x.world = world ∧ P x.handed

/-- A property of notes that a batch keeps. -/
def Admits (P : List (List Fix) → Prop) (batch : List Fix) : Prop :=
  ∀ note, P note → P (note ++ [batch])

theorem alike_inside (act : Act ω α) :
    Alike (Of P) (fun _ => True) (Both fun _ => True) (inside act) act := by
  rintro x _ ⟨rfl, hx⟩
  unfold inside
  cases act x.world with
  | ok a world => exact .ok ⟨rfl, trivial⟩ ⟨rfl, hx⟩
  | error e world => exact .error trivial ⟨rfl, hx⟩

theorem alike_handing (hb : Admits P batch) (act : Act ω α) :
    Alike (Of P) (fun _ => True) (Both fun _ => True) (handing batch act) act := by
  rintro x world ⟨hworld, hx⟩
  exact alike_inside act _ _ ⟨hworld, hb x.handed hx⟩

end Noted

/-- The workspace, with a note of the batches that it is handed. -/
def Workspace.noted {ω : Type} (w : Workspace ω) : Workspace (Noted ω) where
  inject batch := Noted.handing batch (w.inject batch)
  revert batch := Noted.handing batch (w.revert batch)
  verify := Noted.inside w.verify

namespace Noted
variable {ω : Type} {P : List (List Fix) → Prop} {batch : List Fix}

theorem alike_build (hb : Admits P batch) (w : Workspace ω) (v : Act ω (List Diagnostic)) :
    Alike (Of P) (fun _ => True) (Both fun _ => True) (Batch.build w.noted (inside v) batch)
      (Batch.build w v batch) :=
  (alike_handing hb (w.inject batch)).bind fun _ _ _ => alike_inside v

end Noted
end FixTrial
