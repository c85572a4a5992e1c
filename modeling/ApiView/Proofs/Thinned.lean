import Mathlib.Data.List.Forall2
import ApiView.Build.Method
import ApiView.Proofs.Members

/-!
# Thinned — rows with elements left out

A document can say more than a build reads.  This file relates rows and mappings to what is left of them
when some elements are dropped and the others are kept, perhaps changed inside:

* `Thinned`: a row, by what may be dropped and how the others are kept;
* `Thinned.exists_of_mem`, `Thinned.forall₂_flatMap`: what is left, element by element;
* `Entries.Thinned`, `Value.ThinnedList`, `Value.ThinnedMap`: mappings and values;
* `Entries.Thinned.member?`, `Entries.Thinned.member?_eq`, `Entries.Thinned.listMember`: what is left
  under a name.
-/

namespace ApiView

/-! ## Thinned rows -/

section Thinned

variable {α β γ : Type} {drops : α → Prop} {keeps : α → α → Prop} {xs ys xs' ys' : List α}

/-- A row with some of its elements dropped and the others kept in their order. -/
inductive Thinned (drops : α → Prop) (keeps : α → α → Prop) : List α → List α → Prop
  | nil : Thinned drops keeps [] []
  | keep {x y : α} {xs ys : List α} :
      keeps x y → Thinned drops keeps xs ys → Thinned drops keeps (x :: xs) (y :: ys)
  | drop {x : α} {xs ys : List α} :
      drops x → Thinned drops keeps xs ys → Thinned drops keeps (x :: xs) ys

namespace Thinned

theorem refl (hkeeps : ∀ x, keeps x x) (xs : List α) : Thinned drops keeps xs xs := by
  induction xs with
  | nil =>
      exact Thinned.nil
  | cons x rest ih =>
      exact Thinned.keep (hkeeps x) ih

theorem append :
    Thinned drops keeps xs ys → Thinned drops keeps xs' ys' →
      Thinned drops keeps (xs ++ xs') (ys ++ ys') := by
  intro h h'
  induction h with
  | nil =>
      exact h'
  | keep hkeep _ ih =>
      exact Thinned.keep hkeep ih
  | drop hdrop _ ih =>
      exact Thinned.drop hdrop ih

theorem imp {keeps' : α → α → Prop} (himp : ∀ x y, keeps x y → keeps' x y) :
    Thinned drops keeps xs ys → Thinned drops keeps' xs ys := by
  intro h
  induction h with
  | nil =>
      exact Thinned.nil
  | keep hkeep _ ih =>
      exact Thinned.keep (himp _ _ hkeep) ih
  | drop hdrop _ ih =>
      exact Thinned.drop hdrop ih

/-- What is left has been there before. -/
theorem exists_of_mem {y : α} :
    Thinned drops keeps xs ys → y ∈ ys → ∃ x ∈ xs, keeps x y := by
  intro h hy
  induction h with
  | nil =>
      cases hy
  | keep hkeep _ ih =>
      rcases List.mem_cons.1 hy with rfl | hrest
      · exact ⟨_, List.mem_cons_self, hkeep⟩
      · obtain ⟨x, hx, hxy⟩ := ih hrest
        exact ⟨x, List.mem_cons_of_mem _ hx, hxy⟩
  | drop _ _ ih =>
      obtain ⟨x, hx, hxy⟩ := ih hy
      exact ⟨x, List.mem_cons_of_mem _ hx, hxy⟩

/-- What is dropped gives nothing, so a row and what is left of it give the same one by one. -/
theorem forall₂_flatMap {R : β → γ → Prop} {f : α → List β} {g : α → List γ}
    (hdrops : ∀ x, drops x → f x = []) (hkeeps : ∀ x y, keeps x y → List.Forall₂ R (f x) (g y)) :
    Thinned drops keeps xs ys → List.Forall₂ R (xs.flatMap f) (ys.flatMap g) := by
  intro h
  induction h with
  | nil =>
      exact List.Forall₂.nil
  | @keep x y _ _ hkeep _ ih =>
      rw [List.flatMap_cons, List.flatMap_cons]
      exact List.rel_append (hkeeps x y hkeep) ih
  | @drop x _ _ hdrop _ ih =>
      rw [List.flatMap_cons, hdrops x hdrop, List.nil_append]
      exact ih

end Thinned

end Thinned

/-! ## Thinned values -/

/-- Members that are kept stay under their keys. -/
def Entries.Thinned (drops : Scalar × Value → Prop) (keeps : Scalar → Value → Value → Prop) :
    Entries → Entries → Prop :=
  ApiView.Thinned drops fun entry entry' => entry'.1 = entry.1 ∧ keeps entry.1 entry.2 entry'.2

/-- A list is thinned, or any value is left as it is. -/
def Value.ThinnedList (drops : Value → Prop) (v v' : Value) : Prop :=
  v' = v ∨ ∃ items items', v = .list items ∧ v' = .list items' ∧ Thinned drops Eq items items'

/-- A mapping is thinned, or any value is left as it is. -/
def Value.ThinnedMap (drops : Scalar × Value → Prop) (keeps : Scalar → Value → Value → Prop)
    (v v' : Value) : Prop :=
  v' = v ∨ ∃ entries entries', v = .map entries ∧ v' = .map entries' ∧
    Entries.Thinned drops keeps entries entries'

/-- Where no member of the name is dropped, both mappings have it or neither has. -/
theorem Entries.Thinned.member? {drops : Scalar × Value → Prop}
    {keeps : Scalar → Value → Value → Prop} {entries entries' : Entries} (name : String)
    (hname : ∀ v, ¬ drops (.str name, v)) :
    Entries.Thinned drops keeps entries entries' →
      Option.Rel (keeps (.str name)) (entries.member? name) (entries'.member? name) := by
  intro h
  induction h with
  | nil =>
      exact Option.Rel.none
  | @keep entry entry' _ _ hkeep _ ih =>
      obtain ⟨key, v⟩ := entry
      obtain ⟨key', v'⟩ := entry'
      obtain ⟨hkey, hkeeps⟩ := hkeep
      dsimp only at hkey hkeeps
      subst hkey
      -- Both rows begin with this key, so that the search ends here in both or goes on in both.
      by_cases hfound : key' = .str name
      · subst hfound
        rw [member?_cons_self, member?_cons_self]
        exact Option.Rel.some hkeeps
      · rw [member?_cons_of_ne hfound, member?_cons_of_ne hfound]
        exact ih
  | @drop entry _ _ hdrop _ ih =>
      obtain ⟨key, v⟩ := entry
      have hother : key ≠ .str name := by
        rintro rfl
        exact hname v hdrop
      rw [member?_cons_of_ne hother]
      exact ih

/-- Where all members of the name are left as they are, both mappings say the same under it. -/
theorem Entries.Thinned.member?_eq {drops : Scalar × Value → Prop}
    {keeps : Scalar → Value → Value → Prop} {entries entries' : Entries} {name : String}
    (hname : ∀ v, ¬ drops (.str name, v)) (hsame : ∀ v v', keeps (.str name) v v' → v' = v) :
    Entries.Thinned drops keeps entries entries' → entries'.member? name = entries.member? name := by
  intro h
  have hmember := h.member? name hname
  generalize entries.member? name = v? at hmember
  generalize entries'.member? name = v?' at hmember
  cases hmember with
  | none =>
      rfl
  | some hkeeps =>
      rw [hsame _ _ hkeeps]

/-- Where all members of the name are thinned lists, the items under it are thinned. -/
theorem Entries.Thinned.listMember {drops : Scalar × Value → Prop}
    {keeps : Scalar → Value → Value → Prop} {lost : Value → Prop} {entries entries' : Entries}
    {name : String} (hname : ∀ v, ¬ drops (.str name, v))
    (hlist : ∀ v v', keeps (.str name) v v' → v.ThinnedList lost v') :
    Entries.Thinned drops keeps entries entries' →
      ApiView.Thinned lost Eq (Build.listMember entries name) (Build.listMember entries' name) := by
  intro h
  have hmember := h.member? name hname
  unfold Build.listMember
  generalize entries.member? name = v? at hmember
  generalize entries'.member? name = v?' at hmember
  cases hmember with
  | none =>
      exact Thinned.nil
  | some hkeeps =>
      rcases hlist _ _ hkeeps with rfl | ⟨items, items', rfl, rfl, hitems⟩
      · exact Thinned.refl (fun _ => rfl) _
      · exact hitems

end ApiView
