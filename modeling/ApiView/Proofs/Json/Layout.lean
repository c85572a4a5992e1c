import Mathlib.Data.List.Forall2
import ApiView.Proofs.Json.Reading

/-!
# Layout — items and members between brackets

Every layout of a list or a mapping writes its parts one by one and puts the same separators between
them.  Whatever the blanks of the layout are, the whole denotes the container if the parts denote its
items or members:

* `IsItem`, `IsMember`: the text of an item, and of a member;
* `denotes_items`, `denotes_members`: parts with commas between them, up to the closing bracket;
* `denotes_list`, `denotes_map`: the whole container, empty or not.
-/

namespace ApiView
namespace Json

/-! ## Blanks of a layout -/

theorem blanks_nil : Blanks [] := by
  intro c hc
  cases hc

theorem blanks_space : Blanks [' '] := by
  intro c hc
  rw [List.mem_singleton.1 hc]
  rfl

theorem Blanks.append {xs ys : List Char} : Blanks xs → Blanks ys → Blanks (xs ++ ys) := by
  intro hxs hys
  exact List.forall_mem_append.2 ⟨hxs, hys⟩

/-! ## Items -/

/-- A text is written for a value. -/
def IsItem (v : Value) (text : List Char) : Prop :=
  Denotes (.value v) text

section Containers

variable {before between after : List Char} {texts : List (List Char)}

/-- Items with commas between them, and the bracket behind the last one. -/
theorem denotes_items (hbetween : Blanks between) (hafter : Blanks after) {items : List Value}
    (hne : items ≠ []) (hitems : List.Forall₂ IsItem items texts) :
    Denotes (.items items) (Text.joinWith (',' :: between) texts ++ (after ++ [']'])) := by
  induction hitems with
  | nil =>
      exact absurd rfl hne
  | @cons v text rest moreTexts hvalue hrest ih =>
      -- Only the last item has the closing bracket behind it, any other has a comma.
      cases hrest with
      | nil =>
          exact Denotes.lastItem hvalue hafter
      | @cons w text' rest' texts' hw hrest' =>
          have hmore := ih (List.cons_ne_nil w rest')
          have hnext := Denotes.nextItem hvalue blanks_nil hbetween hmore
          simpa [Text.joinWith] using hnext

/-- A list, its items written one by one. -/
theorem denotes_list (hbefore : Blanks before) (hbetween : Blanks between) (hafter : Blanks after)
    {items : List Value} (hitems : List.Forall₂ IsItem items texts) :
    Denotes (.value (.list items))
      ('[' :: (before ++ (Text.joinWith (',' :: between) texts ++ (after ++ [']'])))) := by
  cases items with
  | nil =>
      cases hitems
      rw [Text.joinWith, List.nil_append, ← List.append_assoc]
      exact Denotes.emptyList (hbefore.append hafter)
  | cons v rest =>
      exact Denotes.list hbefore (denotes_items hbetween hafter (List.cons_ne_nil v rest) hitems)

/-! ## Members -/

/-- A text is written for a member: its name, a colon and a blank, and its value. -/
def IsMember (entry : Scalar × Value) (text : List Char) : Prop :=
  ∃ name key value, entry.1 = .str name ∧ Quotes name key ∧ Denotes (.value entry.2) value ∧
    text = key ++ ':' :: ' ' :: value

/-- Members with commas between them, and the brace behind the last one. -/
theorem denotes_members (hbetween : Blanks between) (hafter : Blanks after) {entries : Entries}
    (hne : entries ≠ []) (hentries : List.Forall₂ IsMember entries texts) :
    Denotes (.members entries) (Text.joinWith (',' :: between) texts ++ (after ++ ['\x7d'])) := by
  induction hentries with
  | nil =>
      exact absurd rfl hne
  | @cons entry text rest moreTexts hentry hrest ih =>
      rcases entry with ⟨scalar, v⟩
      obtain ⟨name, key, value, hname, hkey, hvalue, rfl⟩ := hentry
      dsimp only at hname hvalue
      subst hname
      cases hrest with
      | nil =>
          have hlast := Denotes.lastMember hkey blanks_nil blanks_space hvalue hafter
          simpa [Text.joinWith] using hlast
      | @cons entry' text' rest' texts' hentry' hrest' =>
          have hmore := ih (List.cons_ne_nil entry' rest')
          have hnext :=
            Denotes.nextMember hkey blanks_nil blanks_space hvalue blanks_nil hbetween hmore
          simpa [Text.joinWith] using hnext

/-- A mapping with different names, its members written one by one. -/
theorem denotes_map (hbefore : Blanks before) (hbetween : Blanks between) (hafter : Blanks after)
    {entries : Entries} (hnamed : entries.Named) (hentries : List.Forall₂ IsMember entries texts) :
    Denotes (.value (.map entries))
      ('\x7b' :: (before ++ (Text.joinWith (',' :: between) texts ++ (after ++ ['\x7d'])))) := by
  cases entries with
  | nil =>
      cases hentries
      rw [Text.joinWith, List.nil_append, ← List.append_assoc]
      exact Denotes.emptyMap (hbefore.append hafter)
  | cons entry rest =>
      exact Denotes.map hbefore hnamed
        (denotes_members hbetween hafter (List.cons_ne_nil entry rest) hentries)

end Containers

end Json
end ApiView
