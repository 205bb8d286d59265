import Mathlib.Data.List.Forall2
import Mathlib.Data.Set.Function

/-!
# Encodings that say where they end

An encoding need not write everything of a member of a set; what it writes is what two members agree
in that have the same encoding, a relation `R`. It is self-delimiting if it is read back from the
front of any longer text: an encoding with something behind it determines the member, up to `R`, and
what is behind.

Encodings of one length are (`of_length`), and so are two in a row (`append`) and a text behind its
length (`lengthPrefixed`). Of a list, the encodings of its members in a row determine the members
and their number, which need not be written (`forall₂_of_flatMap`).
-/

/-- An encoding, with anything behind it, determines the member of `S` up to `R`, and what is
behind. -/
def SelfDelimiting {α β : Type*} (S : Set α) (R : α → α → Prop) (f : α → List β) : Prop :=
  ∀ a ∈ S, ∀ b ∈ S, ∀ s t, f a ++ s = f b ++ t → R a b ∧ s = t

namespace SelfDelimiting

variable {α β : Type*} {S : Set α} {R Q : α → α → Prop} {f g : α → List β}

theorem of_length {n : ℕ} (hlen : ∀ a ∈ S, (f a).length = n)
    (hR : ∀ a ∈ S, ∀ b ∈ S, f a = f b → R a b) : SelfDelimiting S R f := by
  intro a ha b hb s t h
  obtain ⟨hcode, hrest⟩ := List.append_inj h ((hlen a ha).trans (hlen b hb).symm)
  exact ⟨hR a ha b hb hcode, hrest⟩

theorem append (hf : SelfDelimiting S R f) (hg : SelfDelimiting S Q g) :
    SelfDelimiting S (fun a b => R a b ∧ Q a b) fun a => f a ++ g a := by
  intro a ha b hb s t h
  rw [List.append_assoc, List.append_assoc] at h
  obtain ⟨hR, htail⟩ := hf a ha b hb _ _ h
  obtain ⟨hQ, hrest⟩ := hg a ha b hb s t htail
  exact ⟨⟨hR, hQ⟩, hrest⟩

/-- A text behind its length, for lengths whose encodings are self-delimiting. -/
theorem lengthPrefixed {N : Set ℕ} {w : ℕ → List β} (hw : SelfDelimiting N (· = ·) w) :
    SelfDelimiting {p : List β | p.length ∈ N} (· = ·) fun p => w p.length ++ p := by
  intro p hp q hq s t h
  rw [List.append_assoc, List.append_assoc] at h
  obtain ⟨hlen, htail⟩ := hw _ hp _ hq _ _ h
  exact List.append_inj htail hlen

/-- **A list is determined by the encodings of its members**, of which none is empty. -/
theorem forall₂_of_flatMap (hf : SelfDelimiting S R f) (hne : ∀ a ∈ S, f a ≠ [])
    {l l' : List α} (hl : ∀ a ∈ l, a ∈ S) (hl' : ∀ a ∈ l', a ∈ S)
    (h : l.flatMap f = l'.flatMap f) : List.Forall₂ R l l' := by
  induction l generalizing l' with
  | nil =>
    cases l' with
    | nil => exact .nil
    | cons b l' => exact absurd (List.append_eq_nil_iff.1 h.symm).1 (hne b (hl' b (by simp)))
  | cons a l ih =>
    cases l' with
    | nil => exact absurd (List.append_eq_nil_iff.1 h).1 (hne a (hl a (by simp)))
    | cons b l' =>
      obtain ⟨hR, hrest⟩ := hf a (hl a (by simp)) b (hl' b (by simp)) _ _ h
      exact .cons hR (ih (fun c hc => hl c (List.mem_cons_of_mem a hc))
        (fun c hc => hl' c (List.mem_cons_of_mem b hc)) hrest)

end SelfDelimiting
