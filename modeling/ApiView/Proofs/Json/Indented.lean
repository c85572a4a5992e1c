import ApiView.Proofs.Json.Compact

/-!
# Indented — several lines that denote their value

The indented layout puts every item on a line of its own, deeper than the line of its container, and
writes most characters as they are.  At every depth the lines of a value denote it:

* `blanks_lineBreak`: what the layout puts between items is blank;
* `denotes_indented`: the lines of a value denote it;
* `read_indented`: they are read back, with or without a line break behind them.
-/

namespace ApiView
namespace Json

/-! ## Lines -/

theorem blanks_lineBreak (depth : Nat) : Blanks (lineBreak depth) := by
  intro c hc
  rw [lineBreak, List.mem_cons, List.mem_replicate] at hc
  rcases hc with rfl | ⟨_, rfl⟩
  · rfl
  · rfl

section Blocks

variable {depth : Nat} {texts : List (List Char)}

theorem block_of_ne_nil {opening closing : Char} (hne : texts ≠ []) :
    block opening closing depth texts =
      opening :: (lineBreak (depth + 1) ++
        (Text.joinWith (',' :: lineBreak (depth + 1)) texts ++ (lineBreak depth ++ [closing]))) := by
  rw [block, if_neg (by simpa using hne), List.append_assoc, List.append_assoc]

/-- A block of items denotes their list, whether it has lines or not. -/
theorem denotes_listBlock {items : List Value} (hitems : List.Forall₂ IsItem items texts) :
    Denotes (.value (.list items)) (block '[' ']' depth texts) := by
  -- Empty brackets stand on one line, and the grammar has a rule of its own for them.
  cases hitems with
  | nil =>
      exact Denotes.emptyList blanks_nil
  | cons hvalue hrest =>
      rw [block_of_ne_nil (List.cons_ne_nil _ _)]
      exact denotes_list (blanks_lineBreak _) (blanks_lineBreak _) (blanks_lineBreak _)
        (List.Forall₂.cons hvalue hrest)

/-- A block of members with different names denotes their mapping. -/
theorem denotes_mapBlock {entries : Entries} (hnamed : entries.Named)
    (hentries : List.Forall₂ IsMember entries texts) :
    Denotes (.value (.map entries)) (block '\x7b' '\x7d' depth texts) := by
  cases hentries with
  | nil =>
      exact Denotes.emptyMap blanks_nil
  | cons hentry hrest =>
      rw [block_of_ne_nil (List.cons_ne_nil _ _)]
      exact denotes_map (blanks_lineBreak _) (blanks_lineBreak _) (blanks_lineBreak _) hnamed
        (List.Forall₂.cons hentry hrest)

end Blocks

/-! ## The lines denote the value -/

mutual

/-- At every depth, the lines of a value denote it. -/
theorem denotes_indented (depth : Nat) :
    (v : Value) → v.isJson = true → obstacle? v = none → Denotes (.value v) (indented depth v)
  | .scalar s => fun hjson hfree => denotes_scalarText keepsCharacters_escapeControls hjson hfree
  | .list items => by
      intro hjson hfree
      exact denotes_listBlock (denotes_indentedItems (depth + 1) items hjson hfree)
  | .map entries => by
      intro hjson hfree
      have hnamed := Entries.named_of_isJson hjson
      rw [Value.isJson, Bool.and_eq_true] at hjson
      exact denotes_mapBlock hnamed (denotes_indentedMembers (depth + 1) entries hjson.2 hfree)
  | .pair _ _ | .set _ | .again _ _ => fun hjson _ => by cases hjson

theorem denotes_indentedItems (depth : Nat) :
    (items : List Value) → itemsAreJson items = true → itemsObstacle? items = none →
      List.Forall₂ IsItem items (indentedItems depth items)
  | [] => fun _ _ => List.Forall₂.nil
  | v :: rest => by
      intro hjson hfree
      rw [itemsAreJson, Bool.and_eq_true] at hjson
      obtain ⟨hv, hrest⟩ := obstacles_items hfree
      exact List.Forall₂.cons (denotes_indented depth v hjson.1 hv)
        (denotes_indentedItems depth rest hjson.2 hrest)

theorem denotes_indentedMembers (depth : Nat) :
    (entries : List (Scalar × Value)) → membersAreJson entries = true →
      membersObstacle? entries = none →
        List.Forall₂ IsMember entries (indentedMembers depth entries)
  | [] => fun _ _ => List.Forall₂.nil
  | (key, v) :: rest => by
      intro hjson hfree
      obtain ⟨name, rfl, hname, hv, hrest⟩ := members_of_areJson hjson
      obtain ⟨hvfree, hrestfree⟩ := obstacles_members hfree
      have hvalue := denotes_indented depth v hv hvfree
      exact List.Forall₂.cons (isMember_keyText keepsCharacters_escapeControls hname hvalue)
        (denotes_indentedMembers depth rest hrest hrestfree)

end

/-! ## Reading the lines -/

/-- The lines of a value are read back, with blanks behind them. -/
theorem read_indented {v : Value} (hjson : v.isJson = true) (hfree : obstacle? v = none)
    {after : List Char} (hafter : Blanks after) : read (indented 0 v ++ after) = .ok v :=
  read_of_denotes (denotes_indented 0 v hjson hfree) blanks_nil hafter

end Json
end ApiView
