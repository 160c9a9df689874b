import Mathlib.Data.List.Forall2
import Mathlib.Tactic.Common

namespace CommentBlocks

variable {ε ε' α β γ : Type}

lemma exists_of_bind_eq_ok {x : Except ε α} {f : α → Except ε β} {b : β} (h : x >>= f = .ok b) :
    ∃ a, x = .ok a ∧ f a = .ok b := by
  cases x with
  | error e => cases h
  | ok a => exact ⟨a, rfl, h⟩

lemma mapError_eq_ok_iff {x : Except ε α} {f : ε → ε'} {a : α} : x.mapError f = .ok a ↔ x = .ok a := by
  cases x <;> simp [Except.mapError]

lemma map_eq_ok_iff {x : Except ε α} {f : α → β} {b : β} : x.map f = .ok b ↔ ∃ a, x = .ok a ∧ f a = b := by
  cases x <;> simp [Except.map]

lemma isOk_iff {x : Except ε α} : x.isOk = true ↔ ∃ a, x = .ok a := by
  cases x <;> simp [Except.isOk, Except.toBool]

lemma isOk_map (f : α → β) (x : Except ε α) : (x.map f).isOk = x.isOk := by
  cases x <;> rfl

lemma foldlM_preserves {P : β → Prop} {f : β → α → Except ε β} {as : List α} {b b' : β}
    (hf : ∀ b, ∀ a ∈ as, ∀ b', P b → f b a = .ok b' → P b') (hb : P b) (h : as.foldlM f b = .ok b') : P b' := by
  induction as generalizing b with
  | nil =>
    obtain rfl := Except.ok.inj h
    exact hb
  | cons a as ih =>
    rw [List.foldlM_cons] at h
    obtain ⟨c, hc, hr⟩ := exists_of_bind_eq_ok h
    exact ih (fun b x hx => hf b x (List.mem_cons_of_mem a hx)) (hf b a List.mem_cons_self c hb hc) hr

lemma exists_of_foldlM {f : β → α → Except ε β} {as : List α} {b b' : β} (h : as.foldlM f b = .ok b') :
    ∀ a ∈ as, ∃ c c', f c a = .ok c' := by
  induction as generalizing b with
  | nil => exact fun a hm => absurd hm List.not_mem_nil
  | cons a as ih =>
    rw [List.foldlM_cons] at h
    obtain ⟨c, hc, hr⟩ := exists_of_bind_eq_ok h
    exact List.forall_mem_cons.mpr ⟨⟨b, c, hc⟩, ih hr⟩

lemma forall₂_of_mapM {f : α → Except ε β} {as : List α} {bs : List β} (h : as.mapM f = .ok bs) :
    List.Forall₂ (fun a b => f a = .ok b) as bs := by
  induction as generalizing bs with
  | nil =>
    obtain rfl := Except.ok.inj h
    exact .nil
  | cons a as ih =>
    rw [List.mapM_cons] at h
    obtain ⟨b, hb, hr⟩ := exists_of_bind_eq_ok h
    obtain ⟨bs', hbs, hcons⟩ := exists_of_bind_eq_ok hr
    obtain rfl := Except.ok.inj hcons
    exact .cons hb (ih hbs)

lemma exists_of_mem_mapM {f : α → Except ε β} {as : List α} {bs : List β} {b : β} (h : as.mapM f = .ok bs)
    (hb : b ∈ bs) : ∃ a ∈ as, f a = .ok b := by
  have hall := forall₂_of_mapM h
  clear h
  induction hall with
  | nil => cases hb
  | cons hab _ ih =>
    rcases List.mem_cons.mp hb with rfl | hb
    · exact ⟨_, List.mem_cons_self, hab⟩
    · obtain ⟨a, ha, hab⟩ := ih hb
      exact ⟨a, List.mem_cons_of_mem _ ha, hab⟩

lemma exists_foldlM_of_foldlM {f : β → α → Except ε β} {g : γ → α → Except ε' γ} {as : List α} {b b' : β}
    (hfg : ∀ b a b' c, f b a = .ok b' → ∃ c', g c a = .ok c') (h : as.foldlM f b = .ok b') (c : γ) :
    ∃ c', as.foldlM g c = .ok c' := by
  induction as generalizing b c with
  | nil => exact ⟨c, rfl⟩
  | cons a as ih =>
    rw [List.foldlM_cons] at h
    obtain ⟨b₁, hb, hr⟩ := exists_of_bind_eq_ok h
    obtain ⟨c₁, hc⟩ := hfg b a b₁ c hb
    obtain ⟨c', hc'⟩ := ih hr c₁
    exact ⟨c', by rw [List.foldlM_cons, hc]; exact hc'⟩

end CommentBlocks
