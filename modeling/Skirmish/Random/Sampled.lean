import Skirmish.Random

namespace Skirmish

/-- A generator with its sampling of the integers below a bound. No bound of zero reaches it. -/
structure Sampled (γ : Type) (sample : γ → UInt64 → UInt64 × γ) where
  generator : γ

namespace Sampled

variable {γ : Type} {sample : γ → UInt64 → UInt64 × γ}

instance : RandomSource (Sampled γ sample) where
  nextBelow source bound :=
    if bound = 0 then (0, source)
    else
      let (n, generator) := sample source.generator bound
      (n, ⟨generator⟩)

theorem nextBelow_of_ne {bound : UInt64} (h : bound ≠ 0) (source : Sampled γ sample) :
    nextBelow source bound =
      ((sample source.generator bound).1, ⟨(sample source.generator bound).2⟩) := by
  simp only [nextBelow, if_neg h]

theorem lawful (below : ∀ g bound, 0 < bound → (sample g bound).1 < bound) :
    LawfulRandomSource (Sampled γ sample) where
  nextBelow_lt source bound h := by
    rw [nextBelow_of_ne (UInt64.ne_of_lt h).symm]
    exact below _ _ h

end Sampled

end Skirmish
