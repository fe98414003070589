import Mathlib.Data.List.NodupEquivFin

/-! Lists whose items are each related to an item of another list, in order and no two to the same. -/

namespace HaBluetooth.Support.Matching

variable {α β : Type} {R : α → β → Prop} {as as' : List α} {bs bs' : List β}

open List

lemma append (h : SublistForall₂ R as bs) (h' : SublistForall₂ R as' bs') :
    SublistForall₂ R (as ++ as') (bs ++ bs') := by
  obtain ⟨cs, hcs, hsub⟩ := sublistForall₂_iff.mp h
  obtain ⟨cs', hcs', hsub'⟩ := sublistForall₂_iff.mp h'
  exact sublistForall₂_iff.mpr ⟨cs ++ cs', rel_append hcs hcs', hsub.append hsub'⟩

lemma extend (h : SublistForall₂ R as bs) (bs' : List β) : SublistForall₂ R as (bs ++ bs') := by
  simpa using append h (.nil (l := bs'))

lemma of_prefix (h : SublistForall₂ R as bs) (hp : as' <+: as) : SublistForall₂ R as' bs := by
  obtain ⟨cs, hcs, hsub⟩ := sublistForall₂_iff.mp h
  rw [prefix_iff_eq_take] at hp
  rw [hp]
  exact sublistForall₂_iff.mpr ⟨cs.take as'.length, forall₂_take _ hcs, (take_sublist _ _).trans hsub⟩

lemma exists_embedding (h : SublistForall₂ R as bs) :
    ∃ f : Fin as.length ↪o Fin bs.length, ∀ i, R (as.get i) (bs.get (f i)) := by
  obtain ⟨cs, hcs, hsub⟩ := sublistForall₂_iff.mp h
  obtain ⟨f, hf⟩ := sublist_iff_exists_fin_orderEmbedding_get_eq.mp hsub
  have hlen := hcs.length_eq
  refine ⟨(Fin.castOrderIso hlen).toOrderEmbedding.trans f, fun i => ?_⟩
  have hR := hcs.get i.isLt (hlen ▸ i.isLt)
  rw [hf] at hR
  exact hR

end HaBluetooth.Support.Matching
