import PlotMarkup.Proofs.Number.Finite

namespace PlotMarkup.Number

open Float.Model hiding pack unpack
open Float.Model.UnpackedFloat

def IsZero (x : Float) : Prop :=
  ∃ sign, x.toModel.unpack = .zero sign

/-- The numbers are the same but for the sign of a zero. -/
def Alike (x y : Float) : Prop :=
  x = y ∨ IsZero x ∧ IsZero y

theorem isZero_pack (sign : Sign) : IsZero ⟨Float.Model.pack (.zero sign)⟩ := by
  cases sign
  · exact ⟨_, rfl⟩
  · exact ⟨_, rfl⟩

theorem unpacked_sum_comm (u w : UnpackedFloat) :
    add Format.binary64 u w = add Format.binary64 w u := by
  cases u with
  | finite sign m e _ =>
      cases w with
      | finite sign' m' e' _ =>
          unfold UnpackedFloat.add
          dsimp only
          rw [min_comm, Int.add_comm]
      | _ => rfl
  | infinity sign =>
      cases w with
      | infinity sign' => cases sign <;> cases sign' <;> rfl
      | _ => rfl
  | zero sign =>
      cases w with
      | zero sign' => cases sign <;> cases sign' <;> rfl
      | _ => rfl
  | notANumber => cases w <;> rfl

theorem sum_comm (x y : Float) : x + y = y + x :=
  congrArg (fun u => (⟨Float.Model.pack u⟩ : Float)) (unpacked_sum_comm _ _)

variable {x y z : Float}

theorem IsZero.isFinite (zero : IsZero x) : x.isFinite = true := by
  obtain ⟨sign, zero⟩ := zero
  show x.toModel.unpack.isFinite = true
  rw [zero]
  rfl

namespace Alike

theorem mul (alike : Alike x y) (finite : z.isFinite = true) : Alike (x * z) (y * z) := by
  rcases alike with rfl | ⟨⟨sign, zero⟩, ⟨sign', zero'⟩⟩
  · exact .inl rfl
  · have finite : z.toModel.unpack.isFinite = true := finite
    have product (w : Float) :
        w * z = ⟨Float.Model.pack (UnpackedFloat.mul _ w.toModel.unpack z.toModel.unpack)⟩ := rfl
    right
    rw [product, product, zero, zero']
    cases shape : z.toModel.unpack with
    | notANumber =>
        rw [shape] at finite
        contradiction
    | infinity _ =>
        rw [shape] at finite
        contradiction
    | zero _ => exact ⟨isZero_pack _, isZero_pack _⟩
    | finite _ _ _ _ => exact ⟨isZero_pack _, isZero_pack _⟩

theorem add_left (alike : Alike x y) : Alike (x + z) (y + z) := by
  rcases alike with rfl | ⟨⟨sign, zero⟩, ⟨sign', zero'⟩⟩
  · exact .inl rfl
  · have sum (w : Float) :
        w + z = ⟨Float.Model.pack (UnpackedFloat.add _ w.toModel.unpack z.toModel.unpack)⟩ := rfl
    rw [sum, sum, zero, zero']
    cases z.toModel.unpack with
    | notANumber => exact .inl rfl
    | infinity _ => exact .inl rfl
    | zero sign'' =>
        right
        constructor <;> unfold UnpackedFloat.add <;> dsimp only <;> split <;> exact isZero_pack _
    | finite _ _ _ _ => exact .inl rfl

theorem add_right (alike : Alike x y) : Alike (z + x) (z + y) := by
  rw [sum_comm z x, sum_comm z y]
  exact alike.add_left

theorem trans (first : Alike x y) (second : Alike y z) : Alike x z := by
  rcases first with rfl | ⟨zero, zero'⟩
  · exact second
  · rcases second with rfl | ⟨-, zero''⟩
    · exact .inr ⟨zero, zero'⟩
    · exact .inr ⟨zero, zero''⟩

theorem isFinite_eq (alike : Alike x y) : x.isFinite = y.isFinite := by
  rcases alike with rfl | ⟨zero, zero'⟩
  · rfl
  · rw [zero.isFinite, zero'.isFinite]

theorem beq (alike : Alike x y) (finite : y.isFinite = true) : (x == y) = true := by
  have finite : y.toModel.unpack.isFinite = true := finite
  show UnpackedFloat.beq x.toModel.unpack y.toModel.unpack = true
  rcases alike with rfl | ⟨⟨sign, zero⟩, ⟨sign', zero'⟩⟩
  · cases shape : x.toModel.unpack with
    | notANumber =>
        rw [shape] at finite
        contradiction
    | infinity _ =>
        rw [shape] at finite
        contradiction
    | zero _ => rfl
    | finite sign m e _ => cases sign <;> simp [UnpackedFloat.beq, UnpackedFloat.compare]
  · rw [zero, zero']
    rfl

end Alike

end PlotMarkup.Number
